import ResourceApi.Document.LinkedRecords
import ResourceApi.Document.Lookup
import ResourceApi.Document.Report

/-!
# Assembling reports

The records that were asked for are shown first, and what their relations lead to is collected, each record once.
Then these records are shown, with links of their own but without anything that these lead to: a report reaches one
step from what was asked for.
-/

namespace ResourceApi.Viewpoint

/-- Show a record that was asked for, with the records that its relations lead to. -/
def showPrimary (v : Viewpoint) (r : Record) : Plan (Shown × List Record) := do
  let lookups ← v.lookups r true
  return (⟨r, Lookup.links lookups⟩, Lookup.records lookups)

/-- Show a record that comes with a report. -/
def showLinked (v : Viewpoint) (r : Record) : Plan Shown := do
  let lookups ← v.lookups r false
  return ⟨r, Lookup.links lookups⟩

/-- The report of what was asked for and of the records that come with it. -/
def finish (v : Viewpoint) (primary : Primary) (linked : LinkedRecords) : Plan Report := do
  let shown ← Plan.forEach v.showLinked linked.records
  return { primary, linked := shown }

/-- The report of one record. -/
def reportOf (v : Viewpoint) (r : Record) : Plan Report := do
  let (shown, found) ← v.showPrimary r
  v.finish (.one shown) (LinkedRecords.ofList found)

/-- The report of a list of records, which share the records that come with it. -/
def reportOfAll (v : Viewpoint) (records : List Record) : Plan Report := do
  let shown ← Plan.forEach v.showPrimary records
  v.finish (.many (shown.map Prod.fst)) (LinkedRecords.ofList (shown.flatMap Prod.snd))

/-- The report of what a relation leads to. -/
def reportOfRelatives (v : Viewpoint) : Relatives → Plan Report
  | .one (some r) => v.reportOf r
  | .one none => return { primary := .nothing, linked := [] }
  | .many records => v.reportOfAll records

end ResourceApi.Viewpoint
