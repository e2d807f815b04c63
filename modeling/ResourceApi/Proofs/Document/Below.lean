import ResourceApi.Proofs.Data.SortedMap
import ResourceApi.Proofs.Document.Report
import ResourceApi.Proofs.Plan.Parallel

/-!
# Reports below a mount point

The base of a viewpoint stands at the front of every path that a report tells, and nothing else depends on it. So a report is
put together by the same calls wherever it is looked at from, and differs from the report at the root in the paths of its
links alone (`Viewpoint.reportOf_below`, `Viewpoint.reportOfAll_below`, `Viewpoint.reportOfRelatives_below`).
-/

namespace ResourceApi

/-- A link whose path lies below a base. -/
def Link.below (base : String) (link : Link) : Link :=
  { link with resource := base ++ link.resource }

/-- A record with the paths of its links below a base. -/
def Shown.below (base : String) (shown : Shown) : Shown :=
  { shown with links := shown.links.map (Link.below base) }

/-- What was asked for, with the paths of all links below a base. -/
def Primary.below (base : String) : Primary → Primary
  | nothing => nothing
  | one shown => one (shown.below base)
  | many shown => many (shown.map (Shown.below base))

/-- A report with the paths of all links below a base. -/
def Report.below (base : String) (report : Report) : Report where
  primary := report.primary.below base
  linked := report.linked.map (Shown.below base)

/-- What looking up a relation gives, with the path of the link below a base. -/
def Lookup.below (base : String) (l : Lookup) : Lookup :=
  { l with link := l.link.below base }

namespace Lookup

variable (base : String) (lookups : List Lookup)

/-- Lookups below a base give the links below it. -/
theorem links_below : links (lookups.map (below base)) = (links lookups).map (Link.below base) := by
  unfold links
  rw [SortedMap.map_ofList, List.map_map, List.map_map]
  rfl

/-- Lookups give the same records below every base. -/
theorem records_below : records (lookups.map (below base)) = records lookups := by
  unfold records
  rw [List.flatMap_map]
  rfl

end Lookup

namespace Viewpoint

/-- The same records and header fields, looked at from the root. -/
def atRoot (v : Viewpoint) : Viewpoint :=
  { v with base := "" }

variable (v : Viewpoint)

/-- The path of a relation is its path at the root, with the base before it. -/
theorem relationPath_below (owner : Record) (relation : String) :
    v.relationPath owner relation = v.base ++ v.atRoot.relationPath owner relation := by
  unfold relationPath atRoot
  simp only [String.empty_append, String.append_assoc]

/-- What a relation leads to is found without its path. -/
theorem related_below : v.related = v.atRoot.related := rfl

/-- A relation to one is looked up as it is at the root, and only the link is moved below the base. -/
theorem lookupOne_below (owner : Record) (sideLoad : Bool) (name target key : String) :
    v.lookupOne owner sideLoad name target key =
      Lookup.below v.base <$> v.atRoot.lookupOne owner sideLoad name target key := by
  unfold lookupOne
  rw [relationPath_below, map_bind]
  rfl

/-- A relation to many is looked up as it is at the root, and only the link is moved below the base. -/
theorem lookupMany_below (owner : Record) (name target : String) :
    v.lookupMany owner name target = Lookup.below v.base <$> v.atRoot.lookupMany owner name target := by
  unfold lookupMany
  rw [relationPath_below, map_bind]
  rfl

/-- A field is looked up as it is at the root, and only the link is moved below the base. -/
theorem lookup_below (owner : Record) (sideLoad : Bool) (field : Field) :
    v.lookup owner sideLoad field = Option.map (Lookup.below v.base) <$> v.atRoot.lookup owner sideLoad field := by
  obtain ⟨name, kind⟩ := field
  cases kind with
  | scalar => rfl
  | nullable => rfl
  | toOne target key =>
    change some <$> v.lookupOne owner sideLoad name target key = _ <$> some <$> _
    rw [lookupOne_below, Functor.map_map, Functor.map_map]
    rfl
  | toMany target =>
    change some <$> v.lookupMany owner name target = _ <$> some <$> _
    rw [lookupMany_below, Functor.map_map, Functor.map_map]
    rfl

/-- All relations of a record are looked up as they are at the root, and only the links are moved below the base. -/
theorem lookups_below (owner : Record) (sideLoad : Bool) :
    v.lookups owner sideLoad = List.map (Lookup.below v.base) <$> v.atRoot.lookups owner sideLoad := by
  have each : v.lookup owner sideLoad =
      fun field => Option.map (Lookup.below v.base) <$> v.atRoot.lookup owner sideLoad field :=
    funext (v.lookup_below owner sideLoad)
  unfold lookups
  rw [each, Plan.forEach_map, bind_map_left, map_bind]
  simp only [List.filterMap_map, map_pure, List.map_filterMap]
  rfl

/-- A record that was asked for is shown as at the root but for its links, and comes with the same records. -/
theorem showPrimary_below (r : Record) :
    v.showPrimary r = (fun shown => (shown.1.below v.base, shown.2)) <$> v.atRoot.showPrimary r := by
  unfold showPrimary
  rw [lookups_below, bind_map_left, map_bind]
  simp only [Lookup.links_below, Lookup.records_below, map_pure]
  rfl

/-- A linked record is shown as at the root but for its links. -/
theorem showLinked_below (r : Record) : v.showLinked r = Shown.below v.base <$> v.atRoot.showLinked r := by
  unfold showLinked
  rw [lookups_below, bind_map_left, map_bind]
  simp only [Lookup.links_below, map_pure]
  rfl

/-- If what was asked for is below the base already, a finished report is below it as a whole. -/
theorem finish_below (primary : Primary) (linked : LinkedRecords) :
    v.finish (primary.below v.base) linked = Report.below v.base <$> v.atRoot.finish primary linked := by
  have each : v.showLinked = fun r => Shown.below v.base <$> v.atRoot.showLinked r := funext v.showLinked_below
  unfold finish
  rw [each, Plan.forEach_map, bind_map_left, map_bind]
  rfl

/-- The report on a record is its report at the root, with all links below the base. -/
theorem reportOf_below (r : Record) : v.reportOf r = Report.below v.base <$> v.atRoot.reportOf r := by
  unfold reportOf
  rw [showPrimary_below, bind_map_left, map_bind]
  exact bind_congr fun shown => v.finish_below (.one shown.1) _

/-- The report on a list of records is their report at the root, with all links below the base. -/
theorem reportOfAll_below (records : List Record) :
    v.reportOfAll records = Report.below v.base <$> v.atRoot.reportOfAll records := by
  have each : v.showPrimary = fun r => (fun shown => (shown.1.below v.base, shown.2)) <$> v.atRoot.showPrimary r :=
    funext v.showPrimary_below
  unfold reportOfAll
  rw [each, Plan.forEach_map, bind_map_left, map_bind]
  refine bind_congr fun shown => ?_
  rw [← finish_below, Primary.below, List.map_map, List.map_map, List.flatMap_map]
  rfl

/-- The report on what a relation leads to is the one at the root, with all links below the base. -/
theorem reportOfRelatives_below (relatives : Relatives) :
    v.reportOfRelatives relatives = Report.below v.base <$> v.atRoot.reportOfRelatives relatives := by
  cases relatives with
  | one record =>
    cases record with
    | none => rfl
    | some r => exact v.reportOf_below r
  | many records => exact v.reportOfAll_below records

end Viewpoint

end ResourceApi
