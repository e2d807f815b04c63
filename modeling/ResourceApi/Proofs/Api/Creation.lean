import ResourceApi.Proofs.Api.Writes

/-!
# What a failed creation leaves

An entity that a client sends is stored before it is read back and before its path is sent, and nothing takes it out again.
So a request that ends otherwise than in a created entity may still have stored one, but only in two ways: the entity
cannot be read back, or its path may not stand in a header field (`stored_despite_failure`). Both do happen
(`failed_posts_store`). What ends earlier has stored nothing.
-/

namespace ResourceApi

variable {σ : Type}

/-- The id under which a data source stored an entity, if it was asked to store one and did. -/
def Exchange.stored? : Exchange → Option String
  | ⟨.create _ _, .ok id⟩ => some id
  | _ => none

/-- Only an exchange in which an entity was stored tells an id. -/
theorem Exchange.of_stored? {e : Exchange} {id : String} (h : e.stored? = some id) :
    ∃ type entity, e = ⟨.create type entity, .ok id⟩ := by
  unfold stored? at h
  split at h
  · next type entity given =>
    cases h
    exact ⟨type, entity, rfl⟩
  · cases h

namespace Offering

variable {o : Offering} {request : Request} {entity : Entity} {exchanges : List Exchange} {type id : String} {e : Entity}

/-- Storing and reading back stops where storing fails, and comes to whatever reading back comes to. -/
theorem of_resumes_createAndRead {result : Except Fault Entity}
    (h : (Api.createAndRead o request entity).run.Resumes exchanges (.done result)) :
    (∃ fault, exchanges = [⟨.create o.typeName entity, .error fault⟩]) ∨
      ∃ id, exchanges = [⟨.create o.typeName entity, .ok id⟩, ⟨.fetch o.typeName id request, result⟩] := by
  rcases Engine.of_resumes_bind h with ⟨fault, hcreate, -⟩ | ⟨first, id, rest, rfl, hcreate, hfetch⟩
  · exact .inl ⟨fault, Engine.of_resumes_call hcreate⟩
  · rw [Engine.of_resumes_call hcreate, Engine.of_resumes_call hfetch]
    exact .inr ⟨id, rfl⟩

/-- Asking the controller stores nothing. -/
theorem not_stored_of_resumes_consult {hook : Hook} {result : Except Fault (Verdict hook.Replacement)}
    (h : (o.consult request hook).run.Resumes exchanges (.done result)) :
    ⟨.create type e, .ok id⟩ ∉ exchanges := by
  unfold consult at h
  split at h
  · rw [Engine.of_resumes_call h, List.mem_singleton]
    intro same
    cases same
  · cases h
    exact List.not_mem_nil

/-- If an entity was stored, then the answer is whatever reading it back came to. -/
theorem read_of_stored {result : Except Fault Entity}
    (h : (o.answer request (.create entity) (Api.createAndRead o request entity)).run.Resumes exchanges (.done result))
    (stored : ⟨.create type e, .ok id⟩ ∈ exchanges) : ⟨.fetch o.typeName id request, result⟩ ∈ exchanges := by
  rcases Engine.of_resumes_bind h with ⟨fault, hconsult, -⟩ | ⟨first, verdict, rest, rfl, hconsult, hrest⟩
  · exact absurd stored (not_stored_of_resumes_consult hconsult)
  · have later := (List.mem_append.1 stored).resolve_left (not_stored_of_resumes_consult hconsult)
    cases verdict with
    | replace answer =>
      cases hrest
      cases later
    | proceed =>
      rcases of_resumes_createAndRead hrest with ⟨fault, rfl⟩ | ⟨given, rfl⟩
      · cases List.mem_singleton.1 later
      · rcases List.mem_cons.1 later with same | later
        · cases same
          exact List.mem_append_right _ (List.mem_cons_of_mem _ List.mem_cons_self)
        · cases List.mem_singleton.1 later

end Offering

namespace Api

variable {api : Api} {o : Offering} {shape : Shape} {request : Request} {exchanges : List Exchange}

/-- Of an entity that was created and read back there always is a document, with its path. -/
theorem of_resumes_tell_created {entity created : Entity} {result : Except Fault Outcome}
    (h : (api.tell o request (.create entity) created).run.Resumes exchanges (.done result)) :
    ∃ document, result = .ok (.document .created document (some (api.elementPath o.typeName created.id))) := by
  rcases Engine.of_resumes_bind h with ⟨fault, hreport, -⟩ | ⟨first, report, rest, rfl, -, htold⟩
  · obtain ⟨report, found, -⟩ := Engine.of_resumes_lift hreport
    cases found
  · cases htold
    exact ⟨report.document, rfl⟩

/-- An operation that asks a data source to store an entity asks so for the one that was accepted from the body, and asks
for no other write. -/
theorem hook_of_created {type : String} {entity : Entity} {operation : Operation}
    (stores : .create type entity ∈ o.actions request operation) :
    o.typeName = type ∧ o.hook request operation = .ok (some (.create entity)) ∧
      (o.actions request operation).filter Call.writes = [.create type entity] := by
  unfold Offering.actions at stores ⊢
  split at stores
  · next hook asked =>
    simp only [asked]
    rcases List.mem_cons.1 stores with same | stores
    · cases same
    · have write := Option.mem_toList.1 stores
      cases hook with
      | create sent =>
        cases write
        exact ⟨rfl, rfl, rfl⟩
      | list | fetch | update | delete => cases write
  · cases stores

/-- If an operation stored an entity, then it failed in reading it back, or came to the document of what was read. -/
theorem of_resumes_performOn {operation : Operation} {entity : Entity} {type id : String} {e : Entity}
    {result : Except Fault Outcome} (asked : o.hook request operation = .ok (some (.create entity)))
    (h : (api.performOn o shape request operation).run.Resumes exchanges (.done result))
    (stored : ⟨.create type e, .ok id⟩ ∈ exchanges) :
    (∃ fault, ⟨.fetch o.typeName id request, .error fault⟩ ∈ exchanges ∧ result = .error fault) ∨
      ∃ created document, ⟨.fetch o.typeName id request, .ok created⟩ ∈ exchanges ∧
        result = .ok (.document .created document (some (api.elementPath o.typeName created.id))) := by
  rw [api.performOn_of_hook o shape request asked] at h
  rcases Engine.of_resumes_bind h with ⟨fault, hanswer, rfl⟩ | ⟨first, created, rest, rfl, hanswer, htell⟩
  · exact .inl ⟨fault, Offering.read_of_stored hanswer stored, rfl⟩
  · obtain ⟨document, told⟩ := of_resumes_tell_created htell
    -- What is told after the answer only looks relations up, so the entity was stored before that.
    have early : ⟨.create type e, .ok id⟩ ∈ first := by
      refine (List.mem_append.1 stored).resolve_right fun late => ?_
      cases htell.within (api.within_tell o request (.create entity) created) _ late
    exact .inr ⟨created, document, List.mem_append_left _ (Offering.read_of_stored hanswer early), told⟩

/-- So it is in a run, in which nothing else is written. -/
theorem run_performOn_of_stored {operation : Operation} {type id : String} {entity : Entity} (backend : Backend σ) (s : σ)
    (stored : ⟨.create type entity, .ok id⟩ ∈ ((api.performOn o shape request operation).run.run backend s).exchanges) :
    let run := (api.performOn o shape request operation).run.run backend s
    operation = .create ∧ o.typeName = type ∧ run.calls.filter Call.writes = [.create type entity] ∧
      ((∃ fault, ⟨.fetch type id request, .error fault⟩ ∈ run.exchanges ∧ run.value = .error fault) ∨
        ∃ created document, ⟨.fetch type id request, .ok created⟩ ∈ run.exchanges ∧
          run.value = .ok (.document .created document (some (api.elementPath type created.id)))) := by
  intro run
  have sub := (api.spends_performOn o shape request operation).calls_sublist backend s
  have call : .create type entity ∈ run.calls := List.mem_map_of_mem stored
  obtain ⟨rfl, asked, only⟩ := hook_of_created (sub.subset (List.mem_filter.2 ⟨call, rfl⟩))
  have creates : operation = .create := by
    cases o.asks_of_hook request asked
    rfl
  refine ⟨creates, rfl, ?_, of_resumes_performOn asked (Plan.resumes_run backend _ s) stored⟩
  -- One write may be spent, and it is the one that was made.
  have writes := sub.filter Call.writes
  rw [Call.filter_writes_filter_acts, only] at writes
  exact writes.eq_of_length_le (List.length_pos_of_mem (List.mem_filter.2 ⟨call, rfl⟩))

end Api

/-- If a request stored an entity and does not end in a created entity, then either the entity could not be read back, and
that is what the response tells, or it was read back but its path may not stand in a header field, and the server has
failed. The entity stays: the request writes nothing else. -/
theorem stored_despite_failure (registry : Registry σ) (mount : Mount) (requestId : String) (raw : RawRequest) (s : σ) :
    let run := ((registry.api mount).respond requestId raw).run registry.backend s
    run.value.status ≠ .created → ∀ type entity id, ⟨.create type entity, .ok id⟩ ∈ run.exchanges →
      run.calls.filter Call.writes = [.create type entity] ∧
        ∃ request, mount.Routes raw .collection request ∧ request.method = .post ∧ request.resource = type ∧
          ((∃ fault, ⟨.fetch type id request, .error fault⟩ ∈ run.exchanges ∧
              run.value = (fault.response requestId).finish requestId) ∨
            ∃ created, ⟨.fetch type id request, .ok created⟩ ∈ run.exchanges ∧
              Headers.value? ((registry.api mount).elementPath type created.id) = none ∧
              run.value = (Response.bare .internalServerError requestId).finish requestId) := by
  intro run failed type entity id stored
  cases received : (registry.api mount).receive raw with
  | error reason =>
    have idle : run.exchanges = [] := congrArg Run.exchanges (Api.run_respond_of_refused _ requestId received _ s)
    rw [idle] at stored
    cases stored
  | ok routed =>
    obtain ⟨shape, request⟩ := routed
    have responded := Api.run_respond_of_received _ requestId received registry.backend s
    rcases registry.perform_cases mount shape request with ⟨reason, refused⟩ | ⟨r, operation, served, picked, performed⟩
    · rw [refused] at responded
      have idle : run.exchanges = [] := congrArg Run.exchanges responded
      rw [idle] at stored
      cases stored
    · rw [performed] at responded
      obtain ⟨value, exchanges⟩ : _ ∧ _ := ⟨congrArg Run.value responded, congrArg Run.exchanges responded⟩
      simp only [run, Run.calls, value, exchanges] at failed stored ⊢
      obtain ⟨rfl, addressed, only, ended⟩ := Api.run_performOn_of_stored registry.backend s stored
      have resource : request.resource = type := (Registry.typeName_of_lookup? served).symm.trans addressed
      obtain ⟨rfl, method⟩ := (Operation.of_eq_ok_iff.1 picked).of_create
      refine ⟨only, request, Api.routes_of_receive received, method, resource, ?_⟩
      rcases ended with ⟨fault, unread, faulted⟩ | ⟨created, document, read, told⟩
      · exact .inl ⟨fault, unread, by rw [faulted]; rfl⟩
      · rw [told, Response.status_finish, Response.ofResult_created] at failed
        refine .inr ⟨created, read, ?_⟩
        rw [told, Response.ofResult_created]
        cases sendable : Headers.value? ((registry.api mount).elementPath type created.id) with
        | some value =>
          rw [sendable] at failed
          exact absurd rfl failed
        | none => exact ⟨rfl, rfl⟩

/-! ## A journal -/

namespace Journal

/-- Entries are kept in the order in which they come. They may not be open to be read back. -/
def source (readable : Bool) : Source (List Entity) where
  list _ := fun entries => (.ok entries, entries)
  fetch id _ := fun entries => (if readable then Source.seek entries id else .error (.notFound "gone"), entries)
  fetchMany ids _ := fun entries => (.ok (entries.filter fun e => ids.contains e.id), entries)
  create entry := fun entries =>
    let id := Text.decimal (entries.length + 1)
    (.ok id, entries ++ [{ entry with id := id }])
  update _ := .fail (.internal "entries stay as they are")
  delete _ := .fail (.internal "entries stay")

/-- Entries have a line. -/
def entries : Schema where
  typeName := "entries"
  fields := [⟨"line", .scalar⟩]

/-- A journal, which may be open to be read or not. -/
def registry (readable : Bool) : Registry (List Entity) where
  resources := [{ schema := entries, source := source readable }]
  distinct := (by decide : ["entries"].Nodup)

/-- A request to write an entry. -/
def writing (path : String) : RawRequest :=
  .plain .post path "\x7b\"entries\": \x7b\"line\": \"a\"\x7d\x7d"

end Journal

/-- An entry that is written to a journal that is not open to be read is kept, and the response tells what the reading came
to. -/
theorem journal_stored_despite_failure :
    let registry := Journal.registry false
    let run := ((registry.api .root).respond "7" (Journal.writing "/entries")).run registry.backend []
    run.value.status ≠ .created ∧ ∃ type entity request fault, run.calls.filter Call.writes = [.create type entity] ∧
      ⟨.fetch type "1" request, .error fault⟩ ∈ run.exchanges ∧ run.value = (fault.response "7").finish "7" := by
  intro registry
  have story := stored_despite_failure registry .root "7" (Journal.writing "/entries") []
  have facts :
      let run := ((registry.api .root).respond "7" (Journal.writing "/entries")).run registry.backend []
      run.value.status = .notFound ∧ run.exchanges.filterMap Exchange.stored? = ["1"] := by decide +kernel
  generalize ((registry.api .root).respond "7" (Journal.writing "/entries")).run registry.backend [] = run at story facts ⊢
  obtain ⟨missing, stored⟩ := facts
  have failed : run.value.status ≠ .created := by rw [missing]; decide
  have one : "1" ∈ run.exchanges.filterMap Exchange.stored? := by rw [stored]; exact List.mem_singleton_self "1"
  obtain ⟨e, he, given⟩ := List.mem_filterMap.1 one
  obtain ⟨type, entity, rfl⟩ := Exchange.of_stored? given
  obtain ⟨only, request, -, -, -, ⟨fault, unread, told⟩ | ⟨created, -, -, broken⟩⟩ := story failed type entity "1" he
  · exact ⟨failed, type, entity, request, fault, only, unread, told⟩
  · rw [broken, Response.status_finish] at missing
    cases missing

/-- A failed request may leave an entry behind: one that cannot be read back, and one whose path may not stand in a header
field, here for the line break under which the journal is mounted. -/
theorem failed_posts_store :
    let unread := (((Journal.registry false).api .root).respond "7" (Journal.writing "/entries")).run
      (Journal.registry false).backend []
    let unsent := (((Journal.registry true).api ⟨["a\nb"]⟩).respond "7" (Journal.writing "/a%0Ab/entries")).run
      (Journal.registry true).backend []
    (unread.value.status = .notFound ∧ unread.exchanges.filterMap Exchange.stored? = ["1"] ∧
        unread.state.map Entity.id = ["1"]) ∧
      unsent.value.status = .internalServerError ∧ unsent.exchanges.filterMap Exchange.stored? = ["1"] ∧
        unsent.state.map Entity.id = ["1"] := by
  decide +kernel

end ResourceApi
