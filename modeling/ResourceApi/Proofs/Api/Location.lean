import ResourceApi.Proofs.Api.Creation
import ResourceApi.Proofs.Http.Sending
import ResourceApi.Proofs.Plan.Parallel
import ResourceApi.Proofs.Route.Addresses

/-!
# Where created entities are

A response that says where an entity is answers a creation, and it says the path of the entity that was created
(`location_leads_back_iff`). The path is sent as it is. So it leads back to the entity if the mount point, the type and the
id may stand in a path as they are and the id holds no comma, and in no other case (`unescaped_locations`).
-/

namespace ResourceApi

variable {σ : Type}

/-! ## The location in a response -/

/-- The path of a created entity, if an outcome tells one. -/
def Outcome.location? : Outcome → Option String
  | .document _ _ location => location
  | .noContent _ => none

namespace Response

/-- What a response says where the created entity is. -/
def location (r : Response) : List Bytes :=
  r.headers.values "location"

/-- Another header field does not say where an entity is. -/
theorem location_setHeader_of_ne (r : Response) {name : String} (different : "location" ≠ name) (value : Bytes) :
    (r.setHeader name value).location = r.location :=
  (r.values_setHeader _ _ _).trans (if_neg different)

/-- What all responses carry does not say where an entity is. -/
theorem location_finish (r : Response) (requestId : String) : (r.finish requestId).location = r.location :=
  r.values_finish _ (by decide) (by decide) (by decide)

/-- A response without a document does not say where an entity is. -/
theorem location_bare (status : Status) (requestId : String) : (bare status requestId).location = [] :=
  Headers.values_setText_of_ne _ (by decide) _

/-- A document alone does not say where an entity is. -/
theorem location_ofDocument (status : Status) (document : Bytes) (requestId : String) :
    (ofDocument status document requestId).location = [] := by
  unfold location ofDocument
  rw [Headers.values_setText_of_ne _ (by decide), Headers.values_set, if_neg (by decide)]
  rfl

/-- A fault does not say where an entity is. -/
theorem location_fault (fault : Fault) (requestId : String) : (fault.response requestId).location = [] := by
  unfold Fault.response
  split
  · exact location_ofDocument _ _ _
  · exact location_bare _ _

/-- A response says where an entity is if the outcome tells so, and then it says what the outcome tells, if that may be
sent. -/
theorem location_ofResult (requestId : String) (outcome : Outcome) :
    (ofResult requestId (.ok outcome)).location = (outcome.location?.bind Headers.value?).toList := by
  cases outcome with
  | noContent allow =>
    cases allow with
    | none => exact location_bare _ _
    | some methods => exact (location_setHeader_of_ne _ (by decide) _).trans (location_bare _ _)
  | document status content location =>
    cases location with
    | none => exact location_ofDocument _ _ _
    | some path =>
      rw [ofResult_created]
      change _ = (Headers.value? path).toList
      cases Headers.value? path with
      | none => exact location_bare _ _
      | some value =>
        exact (Response.values_setHeader _ _ _ _).trans (if_pos rfl)

end Response

/-! ## The entity that was created -/

/-- The entity that a request created: the one that a controller put in the place of storing one, or the one that was read
back when one had been stored. -/
inductive Creates (type : String) (request : Request) (exchanges : List Exchange) (created : Entity) : Prop
  | replaced {sent : Entity} (decided : ⟨.consult type request (.create sent), .ok (.replace created)⟩ ∈ exchanges)
  | stored {sent : Entity} {id : String} (kept : ⟨.create type sent, .ok id⟩ ∈ exchanges)
    (read : ⟨.fetch type id request, .ok created⟩ ∈ exchanges)

/-- What a request created it has created, whatever else there was. -/
theorem Creates.mono {type : String} {request : Request} {exchanges more : List Exchange} {created : Entity}
    (h : Creates type request exchanges created) (sub : exchanges ⊆ more) : Creates type request more created := by
  cases h with
  | replaced decided => exact .replaced (sub decided)
  | stored kept read => exact .stored (sub kept) (sub read)

/-- What the controller or the data source answers to a creation is the entity that was created. -/
theorem Offering.creates_of_resumes {o : Offering} {request : Request} {entity created : Entity}
    {exchanges : List Exchange}
    (h : (o.answer request (.create entity) (Api.createAndRead o request entity)).run.Resumes exchanges
      (.done (.ok created))) : Creates o.typeName request exchanges created := by
  rcases Engine.of_resumes_bind h with ⟨fault, -, failed⟩ | ⟨first, verdict, rest, rfl, hconsult, hrest⟩
  · cases failed
  · cases verdict with
    | replace answer =>
      cases hrest
      unfold consult at hconsult
      split at hconsult
      · rw [Engine.of_resumes_call hconsult]
        exact .replaced List.mem_cons_self
      · cases hconsult
    | proceed =>
      rcases Engine.of_resumes_bind hrest with ⟨fault, -, failed⟩ | ⟨created, id, read, rfl, hcreate, hfetch⟩
      · cases failed
      · rw [Engine.of_resumes_call hcreate, Engine.of_resumes_call hfetch]
        exact .stored (List.mem_append_right _ List.mem_cons_self)
          (List.mem_append_right _ (List.mem_cons_of_mem _ List.mem_cons_self))

namespace Api

variable {api : Api} {o : Offering} {shape : Shape} {request : Request} {exchanges : List Exchange}

/-- No operation tells a path, except creating. -/
theorem gives_unlocated {operation : Operation} (other : operation ≠ .create) :
    (api.performOn o shape request operation).run.Gives fun result =>
      result.toOption.bind Outcome.location? = none := by
  have refused (fault : Fault) : (Except.error fault : Except Fault Outcome).toOption.bind Outcome.location? = none := rfl
  cases operation with
  | create => exact absurd rfl other
  | list => exact Engine.gives_bind refused fun entities => Engine.gives_bind refused fun report => rfl
  | fetch =>
    refine Engine.gives_bind refused fun id => ?_
    exact Engine.gives_bind refused fun entity => Engine.gives_bind refused fun report => rfl
  | fetchMany =>
    refine Engine.gives_bind refused fun found => ?_
    exact Engine.gives_bind refused fun entities => Engine.gives_bind refused fun report => rfl
  | follow =>
    refine Engine.gives_bind refused fun id => ?_
    refine Engine.gives_bind refused fun field => ?_
    refine Engine.gives_bind refused fun entity => ?_
    exact Engine.gives_bind refused fun related => Engine.gives_bind refused fun report => rfl
  | update =>
    refine Engine.gives_bind refused fun id => ?_
    refine Engine.gives_bind refused fun sent => ?_
    exact Engine.gives_bind refused fun entity => Engine.gives_bind refused fun _ => rfl
  | delete => exact Engine.gives_bind refused fun id => Engine.gives_bind refused fun _ => rfl
  | options => rfl

/-- The path that is told is that of the entity that was created. -/
theorem creates_of_located {operation : Operation} {outcome : Outcome} {path : String}
    (h : (api.performOn o shape request operation).run.Resumes exchanges (.done (.ok outcome)))
    (located : outcome.location? = some path) :
    operation = .create ∧ ∃ created document, Creates o.typeName request exchanges created ∧
      path = api.elementPath o.typeName created.id ∧ outcome = .document .created document (some path) := by
  by_cases creates : operation = .create
  · subst creates
    refine ⟨rfl, ?_⟩
    cases accepted : Entity.ofBody o.schema request.body with
    | error reason =>
      have refused : api.performOn o shape request .create = Engine.refuse reason := by
        unfold performOn create
        rw [accepted]
        rfl
      rw [refused] at h
      cases h
    | ok entity =>
      have asked : o.hook request .create = .ok (some (.create entity)) := by
        unfold Offering.hook
        rw [accepted]
        rfl
      rw [api.performOn_of_hook o shape request asked] at h
      rcases Engine.of_resumes_bind h with ⟨fault, -, failed⟩ | ⟨first, created, rest, rfl, hanswer, htell⟩
      · cases failed
      · obtain ⟨document, told⟩ := of_resumes_tell_created htell
        obtain rfl := Except.ok.inj told
        obtain rfl := Option.some.inj located
        exact ⟨created, document, (Offering.creates_of_resumes hanswer).mono (List.subset_append_left _ _), rfl, rfl⟩
  · have nowhere := (gives_unlocated creates).of_resumes h
    change outcome.location? = none at nowhere
    rw [nowhere] at located
    cases located

end Api

/-- A request that comes to a path posts to a type, and the path is that of the entity that it created there. -/
theorem Registry.creates_of_located {registry : Registry σ} {mount : Mount} {shape : Shape} {request : Request}
    {exchanges : List Exchange} {outcome : Outcome} {path : String}
    (h : ((registry.api mount).perform shape request).run.Resumes exchanges (.done (.ok outcome)))
    (located : outcome.location? = some path) :
    shape = .collection ∧ request.method = .post ∧ ∃ created document, Creates request.resource request exchanges created ∧
      path = (registry.api mount).elementPath request.resource created.id ∧
      outcome = .document .created document (some path) := by
  rcases registry.perform_cases mount shape request with ⟨reason, refused⟩ | ⟨r, operation, served, picked, performed⟩
  · rw [refused] at h
    cases h
  · rw [performed] at h
    obtain ⟨rfl, told⟩ := Api.creates_of_located h located
    obtain ⟨rfl, method⟩ := (Operation.of_eq_ok_iff.1 picked).of_create
    have addressed : r.offering.typeName = request.resource := typeName_of_lookup? served
    rw [addressed] at told
    exact ⟨rfl, method, told⟩

/-- A response that says where an entity is answers a creation, with the path of the entity that was created. That path
leads back to the entity if the segments of the mount point, the type and the id may stand in a path as they are and the
id holds no comma, and in no other case. -/
theorem location_leads_back_iff (registry : Registry σ) (base : String) (requestId : String) (raw : RawRequest) (s : σ) :
    let mount := Mount.ofText base
    let run := ((registry.api mount).respond requestId raw).run registry.backend s
    ∀ value ∈ run.value.headers.values "location", run.value.status = .created ∧
      ∃ request created, mount.Routes raw .collection request ∧ request.method = .post ∧
        Creates request.resource request run.exchanges created ∧
        value = Utf8.encode (mount.path ++ "/" ++ request.resource ++ "/" ++ created.id) ∧
        ∀ incoming, incoming.segments = Path.segments (mount.path ++ "/" ++ request.resource ++ "/" ++ created.id) →
          ((∃ addressed, mount.route incoming = .ok (.element, addressed) ∧ addressed.resource = request.resource ∧
              addressed.ids = [created.id]) ↔
            (∀ part ∈ mount.segments ++ [request.resource, created.id], Path.Verbatim part) ∧ ',' ∉ created.id.toList) := by
  intro mount run value located
  have refusal (fault : Fault) : ((fault.response requestId).finish requestId).headers.values "location" = [] :=
    (Response.location_finish _ _).trans (Response.location_fault _ _)
  cases received : (registry.api mount).receive raw with
  | error reason =>
    have responded : run = _ := Api.run_respond_of_refused _ requestId received registry.backend s
    rw [responded, refusal] at located
    cases located
  | ok routed =>
    obtain ⟨shape, request⟩ := routed
    have responded : run = _ := Api.run_respond_of_received _ requestId received registry.backend s
    have story := Plan.resumes_run registry.backend ((registry.api mount).perform shape request).run s
    generalize ((registry.api mount).perform shape request).run.run registry.backend s = performed at responded story
    obtain ⟨result, exchanges, state⟩ := performed
    cases result with
    | error fault =>
      rw [responded] at located
      cases refusal fault ▸ located
    | ok outcome =>
      have told : run.value.headers.values "location" = (outcome.location?.bind Headers.value?).toList := by
        rw [responded]
        exact (Response.location_finish _ _).trans (Response.location_ofResult _ _)
      rw [told, Option.mem_toList] at located
      obtain ⟨path, located, sent⟩ := Option.bind_eq_some_iff.1 located
      obtain ⟨rfl, method, created, document, creates, rfl, rfl⟩ := Registry.creates_of_located story located
      have status : run.value.status = .created := by
        rw [responded, Response.status_finish, Response.ofResult_created, sent]
        rfl
      refine ⟨status, request, created, Api.routes_of_receive received, method, responded ▸ creates,
        Headers.eq_encode_of_value? sent, fun incoming arrives => ?_⟩
      rw [Mount.path_element] at arrives
      exact Mount.route_element_iff arrives

/-! ## A journal under a path, and one whose entries are named by clients -/

/-- An entry of a journal under a path is sent with a path that leads back to it. -/
theorem journal_location_leads_back :
    let mount := Mount.ofText "/v1/"
    let run := (((Journal.registry true).api mount).respond "7" (Journal.writing "/v1/entries")).run
      (Journal.registry true).backend []
    run.value.headers.values "location" = [Utf8.encode "/v1/entries/1"] ∧ run.value.status = .created ∧
      ∃ addressed, mount.route ⟨.get, Path.segments "/v1/entries/1", .empty, .empty, []⟩ = .ok (.element, addressed) ∧
        addressed.resource = "entries" ∧ addressed.ids = ["1"] := by
  have told : ((((Journal.registry true).api (Mount.ofText "/v1/")).respond "7" (Journal.writing "/v1/entries")).run
      (Journal.registry true).backend []).value.headers.values "location" = [Utf8.encode "/v1/entries/1"] := by
    decide +kernel
  have story := location_leads_back_iff (Journal.registry true) "/v1/" "7" (Journal.writing "/v1/entries") []
    (Utf8.encode "/v1/entries/1") (told ▸ List.mem_singleton_self _)
  obtain ⟨status, request, created, routes, -, -, sent, back⟩ := story
  have mount : (Mount.ofText "/v1/").segments = ["v1"] := by decide +kernel
  have resource : request.resource = "entries" := by
    cases routes with
    | collection names =>
      have whole : Path.segments "/v1/entries" = ["v1", "entries"] := by decide +kernel
      have path := names.path
      rw [mount] at path
      simpa [RawRequest.routed] using (whole.symm.trans path).symm
  have path : "/v1/entries/1" = "/v1" ++ "/" ++ "entries" ++ "/" ++ created.id := by
    have same := congrArg Utf8.decodeLossy sent
    rw [Utf8.decodeLossy_encode, Utf8.decodeLossy_encode, resource] at same
    exact same
  have id : created.id = "1" := (String.append_right_inj "/v1/entries/").1 path.symm
  have leads := (back ⟨.get, Path.segments "/v1/entries/1", .empty, .empty, []⟩ ?_).2
  · rw [mount, resource, id] at leads
    exact ⟨told, status, leads (by decide +kernel)⟩
  · rw [resource]
    exact congrArg Path.segments path

namespace Journal

/-- A journal whose controller takes an entry as it was sent, under the id that it was sent with. -/
def named : Registry (List Entity) where
  resources := [
    { schema := entries, source := source true, controller := some { create := fun _ entry => .pure (.replace entry) } }]
  distinct := List.pairwise_singleton _ _

/-- A request to write an entry under an id. -/
def naming (id : String) : RawRequest :=
  .plain .post "/entries" ("\x7b\"entries\": \x7b\"id\": \"" ++ id ++ "\", \"line\": \"a\"\x7d\x7d")

/-- What a path leads to: the shape of the route, the type and the ids. -/
def leads (mount : Mount) (path : String) : Option (Shape × String × List String) :=
  (mount.route ⟨.get, Path.segments path, .empty, .empty, []⟩).toOption.map fun routed =>
    (routed.1, routed.2.resource, routed.2.ids)

end Journal

/-- The path of a created entity may lead elsewhere or nowhere: it does so below a mount point that is written with an
escaped slash, and for ids with a slash, an escape or a comma. -/
theorem unescaped_locations :
    let mount := Mount.ofText "a%2Fb"
    let below := (((Journal.registry true).api mount).respond "7" (Journal.writing "/a%2Fb/entries")).run
      (Journal.registry true).backend []
    let named (id : String) := ((Journal.named.api .root).respond "7" (Journal.naming id)).run Journal.named.backend []
    (below.value.status = .created ∧ below.value.headers.values "location" = [Utf8.encode "/a/b/entries/1"] ∧
        Journal.leads mount "/a/b/entries/1" = none) ∧
      ((named "a/b").value.status = .created ∧
        (named "a/b").value.headers.values "location" = [Utf8.encode "/entries/a/b"] ∧
        Journal.leads .root "/entries/a/b" = some (.relation, "entries", ["a"])) ∧
      ((named "a%2Fb").value.status = .created ∧
        (named "a%2Fb").value.headers.values "location" = [Utf8.encode "/entries/a%2Fb"] ∧
        Journal.leads .root "/entries/a%2Fb" = some (.element, "entries", ["a/b"])) ∧
      (named "a,b").value.status = .created ∧
        (named "a,b").value.headers.values "location" = [Utf8.encode "/entries/a,b"] ∧
        Journal.leads .root "/entries/a,b" = some (.element, "entries", ["a", "b"]) := by
  decide +kernel

end ResourceApi
