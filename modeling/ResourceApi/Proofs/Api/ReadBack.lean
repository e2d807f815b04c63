import ResourceApi.Proofs.Api.Creation
import ResourceApi.Proofs.Api.Following
import ResourceApi.Proofs.Document.Rendering
import ResourceApi.Proofs.Registry.Still

/-!
# Reading what was created

A creation is answered with what its data source then has, not with what was sent. So where reading changes nothing, the
document of a creation is the document of a later request for the entity (`created_document_is_read`), with the links and the
linked records of the state after the creation. It tells the id that the data source gave, unless an attribute of the type is
named `id` and shown in its place (`created_without_id`).
-/

namespace ResourceApi

variable {σ : Type}

/-- A data source finds by the id alone, whatever else there is in the request. -/
def Source.FindsById (source : Source σ) : Prop :=
  ∀ id request request' s, (source.fetch id request s).1 = (source.fetch id request' s).1

/-- What is told of an entity that was created is a report of it, with its path. -/
theorem Api.comesTo_tell_created (api : Api) (o : Offering) (request : Request) (sent created : Entity)
    (replies : Replies) :
    (api.tell o request (.create sent) created).run.comesTo replies =
      .ok (.document .created (((api.viewpoint request).reportOf ⟨o.schema, created⟩).comesTo replies).document
        (some (api.elementPath o.typeName created.id))) := by
  unfold tell
  simp only [Engine.run_lift_bind, Plan.comesTo_bind]
  rfl

namespace Registry

variable {registry : Registry σ} (still : registry.Still) (mount : Mount) {r : Resource σ}
  (registered : r ∈ registry.resources)

include still registered

/-- Storing an entity and reading it back comes to what the data source has in the state that storing it leaves. -/
theorem Still.of_createAndRead {request : Request} {sent created : Entity} {s t : σ}
    (h : (Api.createAndRead r.offering request sent).act registry.backend s = (.ok created, t)) :
    ∃ id, r.source.create sent s = (.ok id, t) ∧ (r.source.fetch id request t).1 = .ok created := by
  have served : registry.lookup? r.typeName = some r := lookup?_of_mem registered
  obtain ⟨id, u, stored, read⟩ := Engine.act_bind_eq_ok registry.backend h
  change registry.backend (.create r.typeName sent) s = (.ok id, u) at stored
  change registry.backend (.fetch r.typeName id request) u = (.ok created, t) at read
  have stays := still.state (.fetch r.typeName id request) trivial u
  rw [read] at stays
  subst stays
  rw [backend_of_some (.create r.typeName sent) served] at stored
  rw [backend_of_some (.fetch r.typeName id request) served] at read
  exact ⟨id, stored, congrArg Prod.fst read⟩

/-- A creation that comes to a document has stored the entity that was sent and shows the one that was read back. -/
theorem Still.of_created (free : r.controller = none) {request : Request} (post : request.method = .post)
    (addressed : request.resource = r.typeName) {s t : σ} {status : Status} {document : Document}
    {location : Option String}
    (came : ((registry.api mount).perform .collection request).act registry.backend s =
      (.ok (.document status document location), t)) :
    ∃ sent id created, Entity.ofBody r.schema request.body = .ok sent ∧ r.source.create sent s = (.ok id, t) ∧
      (r.source.fetch id request t).1 = .ok created ∧
      document = (((registry.api mount).viewpoint request).reportOf ⟨r.schema, created⟩ |>.comesTo
        (registry.backend.repliesAt t)).document ∧
      location = some ((registry.api mount).elementPath r.typeName created.id) := by
  have served : registry.lookup? request.resource = some r := by rw [addressed]; exact lookup?_of_mem registered
  have picked : Operation.of .collection request.method request.ids.length = .ok .create := by rw [post]; rfl
  have controlled : r.offering.controlled = false := congrArg Option.isSome free
  rw [registry.perform_of_served mount .collection request served picked] at came
  cases accepted : Entity.ofBody r.schema request.body with
  | error reason =>
    have refused : r.offering.hook request .create = .error reason := by
      unfold Offering.hook
      rw [show Entity.ofBody r.offering.schema request.body = .error reason from accepted]
      rfl
    rw [Api.performOn_eq, refused] at came
    cases came
  | ok sent =>
    have asked : r.offering.hook request .create = .ok (some (.create sent)) := by
      unfold Offering.hook
      rw [show Entity.ofBody r.offering.schema request.body = .ok sent from accepted]
      rfl
    rw [Api.performOn_of_not_controlled _ _ _ _ controlled asked] at came
    obtain ⟨created, u, stored, told⟩ := Engine.act_bind_eq_ok registry.backend came
    obtain ⟨id, given, read⟩ := still.of_createAndRead registered stored
    have reads : ((registry.api mount).tell r.offering request (.create sent) created).run.Within Call.Reads :=
      ((registry.api mount).within_tell r.offering request (.create sent) created).mono fun _ looks => looks.reads
    rw [still.act reads] at told
    obtain ⟨told, rfl⟩ := Prod.mk.inj told
    rw [Api.comesTo_tell_created] at told
    cases told
    exact ⟨sent, id, created, rfl, given, read, rfl, rfl⟩

/-- A request for an entity that its data source has comes to the report of the entity, and leaves the state as it is. -/
theorem Still.act_fetch (free : r.controller = none) {request : Request} (get : request.method = .get)
    (addressed : request.resource = r.typeName) {id : String} (one : request.ids = [id]) {s : σ} {entity : Entity}
    (found : (r.source.fetch id request s).1 = .ok entity) :
    ((registry.api mount).perform .element request).act registry.backend s =
      (.ok (.document .ok (((registry.api mount).viewpoint request).reportOf ⟨r.schema, entity⟩ |>.comesTo
        (registry.backend.repliesAt s)).document none), s) := by
  have served : registry.lookup? request.resource = some r := by rw [addressed]; exact lookup?_of_mem registered
  have picked : Operation.of .element request.method request.ids.length = .ok .fetch := by rw [get, one]; rfl
  have controlled : r.offering.controlled = false := congrArg Option.isSome free
  have replied : registry.backend.repliesAt s (.fetch r.offering.typeName id request) = .ok entity :=
    (repliesAt_of_some (.fetch r.typeName id request) (lookup?_of_mem registered) s).trans found
  rw [registry.perform_of_served mount .element request served picked, still.act]
  · rw [Api.comesTo_fetch _ _ _ _ _ controlled one replied]
    rfl
  · exact Api.reads_of_not_controlled _ _ _ _ controlled (r.offering.hook_fetch one) (Engine.within_call trivial)

end Registry

/-- Where reading changes nothing, a request that came to the document of a created entity has stored the entity that was
sent. The data source gave it an id, under which it was read back: the location ends in the type and this id, and the document
shows what was read, with this id unless an attribute named `id` is shown. In the state that the request leaves, every request
for the entity with the same header fields comes to the same document, whatever else there is in it. -/
theorem created_document_is_read {registry : Registry σ} (still : registry.Still) (mount : Mount) {r : Resource σ}
    (registered : r ∈ registry.resources) (free : r.controller = none) (byId : r.source.FindsById)
    (faithful : r.source.Faithful) {request : Request} (post : request.method = .post)
    (addressed : request.resource = r.typeName) (s : σ) {document : Document} {location : Option String}
    (came : (((registry.api mount).perform .collection request).run.run registry.backend s).value =
      .ok (.document .created document location)) :
    let after := (((registry.api mount).perform .collection request).run.run registry.backend s).state
    ∃ sent id created, Entity.ofBody r.schema request.body = .ok sent ∧ r.source.create sent s = (.ok id, after) ∧
      (r.source.fetch id request after).1 = .ok created ∧ created.id = id ∧
      location = some (mount.path ++ "/" ++ r.typeName ++ "/" ++ id) ∧
      (∃ (links : Links) (members : SortedMap Json),
        (document.data = (⟨r.schema, created⟩ : Record).render links ∧ document.data = .object members) ∧
        members.get? "id" = some (((r.schema.attribute? "id").bind created.shown?).getD (.str id)) ∧
        ((∀ field ∈ r.schema.attributes, field.name ≠ "id") → members.get? "id" = some (.str id))) ∧
      ∀ query body,
        let run := ((registry.api mount).perform .element
          ⟨.get, r.typeName, [id], none, query, request.headers, body⟩).run.run registry.backend after
        run.value = .ok (.document .ok document none) ∧ run.state = after := by
  intro after
  have acted : ((registry.api mount).perform .collection request).act registry.backend s =
      (.ok (.document .created document location), after) := Prod.ext came rfl
  obtain ⟨sent, id, created, accepted, stored, read, rfl, rfl⟩ :=
    still.of_created mount registered free post addressed acted
  have named : created.id = id := faithful id request after created read
  refine ⟨sent, id, created, accepted, stored, read, named, ?_, ?_, fun query body => ?_⟩
  · rw [named]
    rfl
  · let links := (((registry.api mount).viewpoint request).shownBy (registry.backend.repliesAt after)
      ⟨r.schema, created⟩).links
    have held := (⟨r.schema, created⟩ : Record).get?_members_id links
    rw [named] at held
    refine ⟨links, (⟨r.schema, created⟩ : Record).members links, ?_, held, fun unshadowed => ?_⟩
    · rw [Viewpoint.comesTo_reportOf]
      exact ⟨rfl, rfl⟩
    · rw [held, Schema.attribute?_eq_none unshadowed]
      rfl
  · let direct : Request := ⟨.get, r.typeName, [id], none, query, request.headers, body⟩
    have found : (r.source.fetch id direct after).1 = .ok created := (byId id direct request after).trans read
    have fetched : ((registry.api mount).perform .element direct).act registry.backend after = _ :=
      still.act_fetch mount registered free rfl rfl rfl found
    exact ⟨congrArg Prod.fst fetched, congrArg Prod.snd fetched⟩

/-! ## Signed entries -/

/-- The document of a created entity with its path, if an outcome is one. -/
def Outcome.created? : Outcome → Option (Document × String)
  | .document status content (some path) => if status = .created then some (content, path) else none
  | .document _ _ none | .noContent _ => none

/-- An outcome that has the document of a created entity is a creation. -/
theorem Outcome.eq_of_created? {outcome : Outcome} {content : Document} {path : String}
    (h : outcome.created? = some (content, path)) : outcome = .document .created content (some path) := by
  unfold created? at h
  split at h
  · next status content location =>
    obtain ⟨rfl, same⟩ := Option.ite_none_right_eq_some.1 h
    cases same
    rfl
  · cases h
  · cases h

namespace Journal

/-- A journal whose entries name their writer, beside a table with one writer. -/
def signed : Registry (List Entity) where
  resources := [
    { schema := entries.toOne "writer" "Writer", source := source true },
    { schema := Schema.named "writers", source := .ofTable [Entity.bare "7"] }]
  distinct := (by decide +kernel : ["entries", "writers"].Nodup)

/-- Reading a journal does not change it. -/
theorem still_source (readable : Bool) : (source readable).Still where
  list _ _ := rfl
  fetch _ _ _ := rfl
  fetchMany _ _ _ := rfl

/-- A journal finds entries by nothing but the id. -/
theorem findsById_source (readable : Bool) : (source readable).FindsById :=
  fun _ _ _ _ => rfl

/-- What is found under an id in a journal that is open to be read has this id. -/
theorem faithful_source : (source true).Faithful :=
  fun id request entries entity found => Source.faithful_ofTable entries id request () entity found

/-- Reading the journal or the writers changes neither. -/
theorem still_signed : signed.Still := by
  intro r among
  simp only [signed, List.mem_cons, List.not_mem_nil, or_false] at among
  rcases among with rfl | rfl
  · exact still_source true
  · exact ⟨fun _ _ => rfl, fun _ _ _ => rfl, fun _ _ _ => rfl⟩

/-- A request to store what a text holds. -/
def storing (text : String) : Request :=
  ⟨.post, "entries", [], none, .empty, .empty, Utf8.encode text⟩

end Journal

/-- An entry that was written down is told with its writer, and so it is when it is asked for. -/
theorem signed_entry_is_read :
    let request := Journal.storing "\x7b\"entries\": \x7b\"line\": \"a\", \"links\": \x7b\"writer\": \"7\"\x7d\x7d\x7d"
    let run := ((Journal.signed.api ⟨["v1"]⟩).perform .collection request).run.run Journal.signed.backend []
    Journal.signed.Still ∧ run.state.map Entity.id = ["1"] ∧ ∃ document,
      run.value = .ok (.document .created document (some "/v1/entries/1")) ∧ document.linked.length = 1 ∧
        (((Journal.signed.api ⟨["v1"]⟩).perform .element ⟨.get, "entries", ["1"], none, .empty, .empty, []⟩).run.run
          Journal.signed.backend run.state).value = .ok (.document .ok document none) := by
  intro request run
  have facts : run.state.map Entity.id = ["1"] ∧ (run.value.toOption.bind Outcome.created?).map (fun told =>
      (told.1.linked.length, told.2)) = some (1, "/v1/entries/1") := by decide +kernel
  obtain ⟨kept, told⟩ := facts
  obtain ⟨⟨document, _⟩, told, same⟩ := Option.map_eq_some_iff.1 told
  obtain ⟨outcome, succeeded, created⟩ := Option.bind_eq_some_iff.1 told
  obtain ⟨linked, rfl⟩ := Prod.mk.inj same
  have came : run.value = .ok (.document .created document (some "/v1/entries/1")) := by
    rw [ok_of_toOption succeeded, Outcome.eq_of_created? created]
  obtain ⟨sent, id, created, -, -, -, -, location, -, again⟩ :=
    created_document_is_read Journal.still_signed ⟨["v1"]⟩ List.mem_cons_self rfl (Journal.findsById_source true)
      Journal.faithful_source rfl rfl [] came
  have one : id = "1" := (String.append_right_inj "/v1/entries/").1 (Option.some.inj location).symm
  rw [one] at again
  exact ⟨Journal.still_signed, kept, document, came, linked, (again .empty []).1⟩

/-- An entry with an attribute `id` is told without its id: the document has null in its place, which is not what the data
source gave and not where the location leads. -/
theorem created_without_id :
    let registry : Registry (List Entity) :=
      ⟨[{ schema := Journal.entries.nullable "id", source := Journal.source true }], List.pairwise_singleton _ _⟩
    let run := ((registry.api .root).respond "7" (Journal.writing "/entries")).run registry.backend []
    run.value.status = .created ∧ run.value.headers.values "location" = [Utf8.encode "/entries/1"] ∧
      run.state.map Entity.id = ["1"] ∧
      run.value.body.content =
        Utf8.encode "\x7b\"data\":\x7b\"id\":null,\"line\":\"a\",\"type\":\"entries\"\x7d\x7d" := by
  decide +kernel

end ResourceApi
