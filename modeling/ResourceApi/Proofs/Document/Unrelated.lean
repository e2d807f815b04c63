import ResourceApi.Document.Assembly

/-!
# Records without relations

A record whose schema declares no relations leads nowhere: nothing is looked up for its report, and the report shows it
alone.
-/

namespace ResourceApi.Viewpoint

variable (v : Viewpoint)

/-- A record without relations has nothing to look up, and no call is made for it. -/
theorem lookups_of_unrelated {r : Record} (unrelated : r.schema.relations = []) (sideLoad : Bool) :
    v.lookups r sideLoad = pure [] := by
  unfold lookups
  rw [unrelated]
  rfl

/-- A record without relations is shown without links and without a call. -/
theorem showPrimary_of_unrelated {r : Record} (unrelated : r.schema.relations = []) :
    v.showPrimary r = pure (⟨r, SortedMap.empty⟩, []) := by
  unfold showPrimary
  rw [v.lookups_of_unrelated unrelated]
  rfl

/-- The report of a record without relations shows it alone. -/
theorem reportOf_of_unrelated {r : Record} (unrelated : r.schema.relations = []) :
    v.reportOf r = pure { primary := .one ⟨r, SortedMap.empty⟩, linked := [] } := by
  unfold reportOf
  rw [v.showPrimary_of_unrelated unrelated]
  rfl

/-- The report of records without relations shows these, and nothing beside them. -/
theorem reportOfAll_of_unrelated {records : List Record} (unrelated : ∀ r ∈ records, r.schema.relations = []) :
    v.reportOfAll records = pure { primary := .many (records.map (⟨·, SortedMap.empty⟩)), linked := [] } := by
  have shown : Plan.forEach v.showPrimary records = pure (records.map fun r => (⟨r, SortedMap.empty⟩, [])) := by
    induction records with
    | nil => rfl
    | cons r rest ih =>
      have first := v.showPrimary_of_unrelated (unrelated r List.mem_cons_self)
      have later := ih fun other hother => unrelated other (List.mem_cons_of_mem _ hother)
      unfold Plan.forEach
      rw [first, later]
      rfl
  have alone : (records.map fun r => ((⟨r, SortedMap.empty⟩ : Shown), ([] : List Record))).flatMap Prod.snd = [] := by
    simp
  unfold reportOfAll
  rw [shown, pure_bind, alone, List.map_map]
  rfl

end ResourceApi.Viewpoint
