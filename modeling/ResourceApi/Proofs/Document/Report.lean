import ResourceApi.Document.Assembly
import ResourceApi.Proofs.Document.LinkedRecords
import ResourceApi.Proofs.Document.Lookup

/-!
# What reports come to

A report shows every record in the same way, whether it was asked for or came along (`Viewpoint.shownBy`), and links the
records one step from those that were asked for (`Viewpoint.neighbourhoodBy`), of each key the first. Both depend on one
record alone, so nothing else in a report has a say in how a record is shown. Showing a linked record asks for nothing but
the ids in its links to many (`Viewpoint.listings`).
-/

namespace ResourceApi

/-- The records that were asked for, with their links. -/
def Primary.shown : Primary → List Shown
  | nothing => []
  | one shown => [shown]
  | many shown => shown

namespace Viewpoint

variable (v : Viewpoint) (replies : Replies)

/-- A record with its links. -/
def shownBy (r : Record) : Shown where
  record := r
  links := SortedMap.ofList (r.schema.relations.map fun field =>
    (field.name, v.linkOf r field (v.neighboursBy replies r field)))

/-- The records one step from a record, in the order of its relations. -/
def neighbourhoodBy (r : Record) : List Record :=
  r.schema.relations.flatMap (v.neighboursBy replies r)

/-- The relations of a record are looked up to the links with which it is shown, whether or not related records are to come with
it. -/
theorem links_lookedUp (r : Record) (sideLoad : Bool) :
    Lookup.links (r.schema.relations.map (v.lookedUp replies r sideLoad)) = (v.shownBy replies r).links := by
  rw [Lookup.links, List.map_map]
  rfl

/-- If related records are to come with a record, its relations are looked up to its neighbourhood. -/
theorem records_lookedUp (r : Record) :
    Lookup.records (r.schema.relations.map (v.lookedUp replies r true)) = v.neighbourhoodBy replies r := by
  rw [Lookup.records, List.flatMap_map]
  rfl

/-- Records are shown as the records they are. -/
theorem map_record_shownBy (records : List Record) :
    (records.map (v.shownBy replies)).map Shown.record = records := by
  rw [List.map_map]
  exact List.map_id records

/-- Showing a record that was asked for gives its neighbourhood too. -/
theorem comesTo_showPrimary (r : Record) :
    (v.showPrimary r).comesTo replies = (v.shownBy replies r, v.neighbourhoodBy replies r) := by
  simp only [showPrimary, Plan.comesTo_bind, Plan.comesTo_pure, comesTo_lookups, links_lookedUp, records_lookedUp]
  rfl

/-- Showing a linked record gives it with the same links, and nothing else. -/
theorem comesTo_showLinked (r : Record) : (v.showLinked r).comesTo replies = v.shownBy replies r := by
  simp only [showLinked, Plan.comesTo_bind, Plan.comesTo_pure, comesTo_lookups, links_lookedUp]
  rfl

/-- A finished report shows all linked records. -/
theorem comesTo_finish (primary : Primary) (linked : LinkedRecords) :
    (v.finish primary linked).comesTo replies = ⟨primary, linked.records.map (v.shownBy replies)⟩ := by
  simp only [finish, Plan.comesTo_bind, Plan.comesTo_pure, Plan.comesTo_forEach, comesTo_showLinked]

/-- The report on a record links the records of its neighbourhood. -/
theorem comesTo_reportOf (r : Record) :
    (v.reportOf r).comesTo replies =
      { primary := .one (v.shownBy replies r)
        linked := ((v.neighbourhoodBy replies r).eraseDupsBy Record.sameKey).map (v.shownBy replies) } := by
  simp only [reportOf, Plan.comesTo_bind, comesTo_showPrimary, comesTo_finish, LinkedRecords.records_ofList]

/-- The report on a list of records links the records of all their neighbourhoods. -/
theorem comesTo_reportOfAll (records : List Record) :
    (v.reportOfAll records).comesTo replies =
      { primary := .many (records.map (v.shownBy replies))
        linked := ((records.flatMap (v.neighbourhoodBy replies)).eraseDupsBy Record.sameKey).map (v.shownBy replies) } := by
  simp only [reportOfAll, Plan.comesTo_bind, Plan.comesTo_forEach, comesTo_showPrimary, comesTo_finish,
    LinkedRecords.records_ofList, List.map_map, List.flatMap_map]
  rfl

/-- Finishing a report only looks relations up. -/
theorem within_finish (primary : Primary) (linked : LinkedRecords) :
    (v.finish primary linked).Within (Call.LooksUp v.headers) := by
  refine (Plan.Within.forEach fun r _ => ?_).bind fun _ => Plan.within_pure _
  exact (v.within_lookups r false).bind fun _ => Plan.within_pure _

/-- Showing a record that was asked for only looks relations up. -/
theorem within_showPrimary (r : Record) : (v.showPrimary r).Within (Call.LooksUp v.headers) :=
  (v.within_lookups r true).bind fun _ => Plan.within_pure _

/-- The report on a record only looks relations up. -/
theorem within_reportOf (r : Record) : (v.reportOf r).Within (Call.LooksUp v.headers) :=
  (v.within_showPrimary r).bind fun _ => v.within_finish _ _

/-- The report on a list of records only looks relations up. -/
theorem within_reportOfAll (records : List Record) : (v.reportOfAll records).Within (Call.LooksUp v.headers) :=
  (Plan.Within.forEach fun r _ => v.within_showPrimary r).bind fun _ => v.within_finish _ _

/-- The report on what a relation leads to only looks relations up. -/
theorem within_reportOfRelatives (relatives : Relatives) :
    (v.reportOfRelatives relatives).Within (Call.LooksUp v.headers) := by
  cases relatives with
  | one record =>
    cases record with
    | none => exact Plan.within_pure _
    | some r => exact v.within_reportOf r
  | many records => exact v.within_reportOfAll records

end Viewpoint

end ResourceApi
