import ResourceApi.Document.Assembly

/-!
# What reports need of a catalogue

Relations are looked up by the schemas of the types that they lead to. Whether these types have controllers is nowhere
looked at, so two catalogues with the same schemas give the same reports.
-/

namespace ResourceApi.Viewpoint

variable {c c' : Catalogue} (same : c.schema? = c'.schema?) (base : String) (headers : Headers)

include same

/-- What is behind a relation is found by the schemas alone. -/
theorem related_congr : (mk c base headers).related = (mk c' base headers).related := by
  funext owner field
  simp only [related, same]
  rfl

/-- A relation is looked up by the schema of the type that it leads to. -/
theorem lookup_congr : (mk c base headers).lookup = (mk c' base headers).lookup := by
  funext owner sideLoad field
  simp only [lookup, lookupOne, lookupMany, foundOne, foundMany, same]
  rfl

/-- All relations of a record are looked up by schemas alone. -/
theorem lookups_congr : (mk c base headers).lookups = (mk c' base headers).lookups := by
  funext owner sideLoad
  rw [lookups, lookups, lookup_congr same]

/-- A record that was asked for is shown by what its relations lead to, and so by schemas alone. -/
theorem showPrimary_congr : (mk c base headers).showPrimary = (mk c' base headers).showPrimary := by
  funext r
  rw [showPrimary, showPrimary, lookups_congr same]

/-- The linked records at the end of a report are shown by schemas alone. -/
theorem finish_congr : (mk c base headers).finish = (mk c' base headers).finish := by
  have shown : (mk c base headers).showLinked = (mk c' base headers).showLinked := by
    funext r
    rw [showLinked, showLinked, lookups_congr same]
  funext primary linked
  rw [finish, finish, shown]

/-- Catalogues with the same schemas give the same report on a record. -/
theorem reportOf_congr : (mk c base headers).reportOf = (mk c' base headers).reportOf := by
  funext r
  rw [reportOf, reportOf, showPrimary_congr same, finish_congr same]

/-- Catalogues with the same schemas give the same report on a list of records. -/
theorem reportOfAll_congr : (mk c base headers).reportOfAll = (mk c' base headers).reportOfAll := by
  funext records
  rw [reportOfAll, reportOfAll, showPrimary_congr same, finish_congr same]

/-- Catalogues with the same schemas give the same report on what a relation leads to. -/
theorem reportOfRelatives_congr : (mk c base headers).reportOfRelatives = (mk c' base headers).reportOfRelatives := by
  funext relatives
  unfold reportOfRelatives
  rw [reportOf_congr same, reportOfAll_congr same]

end ResourceApi.Viewpoint
