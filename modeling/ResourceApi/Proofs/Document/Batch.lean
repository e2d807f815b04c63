import ResourceApi.Proofs.Document.Collecting
import ResourceApi.Proofs.Document.Report
import ResourceApi.Proofs.Registry.Table

/-!
# Reports of many records

A report of many records collects what their relations lead to in one set. Still it shows each record as a report of it
alone does, and links what the reports of the records alone link, of each key the first (`batch_agrees_with_singles`).
-/

namespace ResourceApi

variable {σ : Type}

/-- Whether two shown records have one type and one id. -/
def Shown.sameKey (a b : Shown) : Bool :=
  a.record.sameKey b.record

namespace Viewpoint

variable (v : Viewpoint)

/-- Records that are shown one after another are shown as each would be alone, and the set takes up their neighbourhoods in
order. -/
theorem comesTo_showAllInto (replies : Replies) (records : List Record) (set : LinkedRecords) :
    (v.showAllInto records set).comesTo replies =
      (records.map (v.shownBy replies), set.insertAll (records.flatMap (v.neighbourhoodBy replies))) := by
  simp only [showAllInto_eq_forEach, Plan.comesTo_bind, Plan.comesTo_pure, Plan.comesTo_forEach, comesTo_showPrimary,
    List.map_map, List.flatMap_map]
  rfl

/-- Showing records one after another only looks relations up. -/
theorem within_showAllInto (records : List Record) (set : LinkedRecords) :
    (v.showAllInto records set).Within (Call.LooksUp v.headers) := by
  rw [showAllInto_eq_forEach]
  exact (Plan.Within.forEach fun r _ => v.within_showPrimary r).bind fun _ => Plan.within_pure _

/-! ## Reports of many and of one -/

/-- A report of many records shows what the reports of them alone show. -/
theorem data_reportOfAll (replies : Replies) (records : List Record) :
    ((v.reportOfAll records).comesTo replies).document.data =
      .arr (records.map fun r => ((v.reportOf r).comesTo replies).document.data) := by
  simp only [comesTo_reportOfAll, comesTo_reportOf, Report.document, Primary.json, List.map_map]
  rfl

/-- A report of many records links what the reports of them alone link, of each key the first: it is all one whether the
neighbours of each record are cut down to the first of each key and shown before they are joined, or afterwards. -/
theorem linked_reportOfAll (replies : Replies) (records : List Record) :
    ((v.reportOfAll records).comesTo replies).linked =
      (records.flatMap fun r => ((v.reportOf r).comesTo replies).linked).eraseDupsBy Shown.sameKey := by
  let near := v.neighbourhoodBy replies
  let shown := v.shownBy replies
  calc ((v.reportOfAll records).comesTo replies).linked
      = ((records.flatMap near).eraseDupsBy Record.sameKey).map shown := by
        rw [comesTo_reportOfAll]
    _ = ((records.flatMap fun r => (near r).eraseDupsBy Record.sameKey).eraseDupsBy Record.sameKey).map shown := by
        rw [LinkedRecords.eraseDupsBy_flatMap]
    _ = ((records.flatMap fun r => (near r).eraseDupsBy Record.sameKey).map shown).eraseDupsBy Shown.sameKey :=
        (eraseDupsBy_map shown Shown.sameKey _).symm
    _ = (records.flatMap fun r => ((v.reportOf r).comesTo replies).linked).eraseDupsBy Shown.sameKey := by
        simp only [comesTo_reportOf, List.map_flatMap]
        rfl

end Viewpoint

/-- A report of many entities of a type shows each as the report of it alone does, in order and none left out, and links
what the reports of the entities alone link, one after another, of each key the first; so what it links is shown as in
one of these. A report of one entity starts with an empty set of linked records, and a report of many hands one set from
each entity to the next. The set may as well hold anything before: it then takes up what is new, and nothing else changes.
The reports may be made in any states. -/
theorem batch_agrees_with_singles {registry : Registry σ} (steady : registry.Steady) (base : String) (request : Request)
    (schema : Schema) (entities : List Entity) (s : σ) (start : Entity → σ) :
    let v := registry.viewpoint base request
    let records : List Record := entities.map (⟨schema, ·⟩)
    let batch := ((v.reportOfAll records).run registry.backend s).value
    let single := fun entity => ((v.reportOf ⟨schema, entity⟩).run registry.backend (start entity)).value
    batch.document.data = .arr (entities.map fun entity => (single entity).document.data) ∧
      batch.linked = (entities.flatMap fun entity => (single entity).linked).eraseDupsBy Shown.sameKey ∧
      (∀ json ∈ batch.document.linked, ∃ entity ∈ entities, json ∈ (single entity).document.linked) ∧
      (∀ entity, v.reportOf ⟨schema, entity⟩ = do
        let (shown, set) ← v.showInto ⟨schema, entity⟩ .empty
        v.finish (.one shown) set) ∧
      (v.reportOfAll records = do
        let (shown, set) ← v.showAllInto records .empty
        v.finish (.many shown) set) ∧
      ∀ (set : LinkedRecords) (s' : σ),
        let threaded := ((v.showAllInto records set).run registry.backend s').value
        threaded.1.map Shown.json = entities.map (fun entity => (single entity).document.data) ∧
          threaded.2 = set.insertAll (batch.linked.map Shown.record) := by
  intro v records batch single
  let replies := registry.backend.repliesAt s
  have hbatch : batch = (v.reportOfAll records).comesTo replies :=
    steady.run_value ((v.within_reportOfAll records).mono fun _ h => h.reads) s s
  have hsingle : single = fun entity => (v.reportOf ⟨schema, entity⟩).comesTo replies :=
    funext fun entity => steady.run_value ((v.within_reportOf _).mono fun _ h => h.reads) (start entity) s
  have linked : batch.linked = (entities.flatMap fun entity => (single entity).linked).eraseDupsBy Shown.sameKey := by
    rw [hbatch, hsingle, v.linked_reportOfAll, List.flatMap_map]
  refine ⟨?_, linked, ?_, fun entity => v.reportOf_eq_showInto _, v.reportOfAll_eq_showAllInto records, ?_⟩
  · rw [hbatch, hsingle, v.data_reportOfAll, List.map_map]
    rfl
  · intro json hjson
    obtain ⟨shown, hshown, rfl⟩ := List.mem_map.1 hjson
    rw [linked] at hshown
    obtain ⟨entity, hentity, hshown⟩ := List.mem_flatMap.1 (mem_of_mem_eraseDupsBy hshown)
    exact ⟨entity, hentity, List.mem_map_of_mem hshown⟩
  · intro set s' threaded
    have hthreaded : threaded = (v.showAllInto records set).comesTo replies :=
      steady.run_value ((v.within_showAllInto records set).mono fun _ h => h.reads) s' s
    rw [v.comesTo_showAllInto] at hthreaded
    constructor
    · simp only [hthreaded, hsingle, v.comesTo_reportOf, List.map_map, records]
      rfl
    · have cut := set.insertAll_ofList (records.flatMap (v.neighbourhoodBy replies))
      rw [LinkedRecords.records_ofList] at cut
      rw [hthreaded, hbatch, v.comesTo_reportOfAll]
      exact cut.symm.trans (congrArg set.insertAll (v.map_record_shownBy replies _).symm)

/-- A report of the two posts of the blog. The reports of each alone link three records, but both link the author. -/
theorem blog_batch_agrees :
    let entities := [Blog.firstPost.entity, Blog.secondPost.entity]
    let batch := ((Blog.view.reportOfAll (entities.map (⟨Blog.posts, ·⟩))).run Blog.registry.backend ()).value
    let single := fun entity => ((Blog.view.reportOf ⟨Blog.posts, entity⟩).run Blog.registry.backend ()).value
    Blog.registry.Steady ∧
      batch.document.data = .arr (entities.map fun entity => (single entity).document.data) ∧
      (entities.flatMap fun entity => (single entity).linked).map (·.record.key) =
        [("users", "7"), ("comments", "5"), ("users", "7")] ∧
      batch.linked.map (·.record.key) = [("users", "7"), ("comments", "5")] := by
  intro entities batch single
  have steady : Blog.registry.Steady := (Blog.isTables none).steady
  obtain ⟨data, linked, -⟩ :=
    batch_agrees_with_singles steady "/v1" Blog.request Blog.posts entities () fun _ => ()
  have kept : ((entities.flatMap fun entity => (single entity).linked).eraseDupsBy Shown.sameKey).map (·.record.key) =
      [("users", "7"), ("comments", "5")] := by decide +kernel
  exact ⟨steady, data, by decide +kernel, (congrArg (List.map (·.record.key)) linked).trans kept⟩

end ResourceApi
