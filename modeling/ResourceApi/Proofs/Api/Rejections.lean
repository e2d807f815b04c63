import ResourceApi.Proofs.Api.Forms

/-!
# Requests that are turned down

What stands against a request counts in a fixed order: that its body breaks off, that its path leads nowhere, that its type is
not served, that its method does not apply, and at last that the relation or the body is not accepted. Whichever it is, it is
found before anyone is called (`rejected_requests_reach_nobody`). A body that breaks off counts even before the path
(`broken_body_before_path`), since the request is read as a whole before it is routed.
-/

namespace ResourceApi

variable {σ : Type}

/-! ## Where paths lead -/

/-- A path leads to a type, to entities of a type, or to a relation of one entity. -/
inductive Mount.Leads (mount : Mount) (path : String) : Prop
  | collection {type : String} (segments : Path.segments path = mount.segments ++ [type])
  | element {type segment : String} (segments : Path.segments path = mount.segments ++ [type, segment])
    (some : Mount.idsOf segment ≠ [])
  | relation {type segment id relation : String}
    (segments : Path.segments path = mount.segments ++ [type, segment, relation]) (one : Mount.idsOf segment = [id])

namespace Mount

variable {mount : Mount} {raw : RawRequest}

/-- A path on which a request is routed leads somewhere. -/
theorem Routes.leads {shape : Shape} {request : Request} (h : mount.Routes raw shape request) :
    mount.Leads raw.target.path := by
  cases h with
  | collection names => exact .collection names.path
  | element names some => exact .element names.path some
  | relation names one => exact .relation names.path one

/-- A request that comes in whole on a path that leads somewhere is routed. -/
theorem Leads.routes (h : mount.Leads raw.target.path) {body : Bytes} (whole : Chunk.collect raw.chunks = .ok body) :
    ∃ shape request, mount.Routes raw shape request := by
  cases h with
  | collection segments => exact ⟨_, _, .collection ⟨whole, segments⟩⟩
  | element segments some => exact ⟨_, _, .element ⟨whole, segments⟩ some⟩
  | relation segments one => exact ⟨_, _, .relation ⟨whole, segments⟩ one⟩

/-- A route to entities names some. -/
theorem Routes.ids_ne_nil {request : Request} (h : mount.Routes raw .element request) : request.ids ≠ [] := by
  cases h with
  | element names some => exact some

end Mount

namespace Api

variable {api : Api} {raw : RawRequest}

/-- A body that breaks off is refused, whatever the path is. -/
theorem receive_of_broken {reason : String} (broken : Chunk.collect raw.chunks = .error reason) :
    api.receive raw = .error (.unreadableBody reason) := by
  unfold receive
  rw [broken]

/-- A request that comes in whole on any other path is refused for its path. -/
theorem receive_of_not_leads {body : Bytes} (whole : Chunk.collect raw.chunks = .ok body)
    (lost : ¬api.mount.Leads raw.target.path) :
    api.receive raw = .error (.noRoute (Path.segments raw.target.path)) := by
  cases received : api.receive raw with
  | ok routed =>
    obtain ⟨shape, request⟩ := routed
    exact absurd (routes_of_receive received).leads lost
  | error reason =>
    unfold receive at received
    rw [whole] at received
    change api.mount.route (.ofRaw raw body) = .error reason at received
    unfold Mount.route at received
    split at received
    · exact received.symm
    · cases received

end Api

/-! ## Methods that do not apply -/

/-- A write to a list of entities. -/
def Operation.WritesToList (shape : Shape) (method : Method) (count : Nat) : Prop :=
  shape = .element ∧ 2 ≤ count ∧ (method = .put ∨ method = .post ∨ method = .delete)

namespace Operation

variable {shape : Shape} {method : Method} {count : Nat}

/-- A write to a list of entities picks no operation. -/
theorem of_of_writesToList (h : WritesToList shape method count) :
    Operation.of shape method count = .error (.writeToList method count) := by
  obtain ⟨rfl, several, write⟩ := h
  have other : method ≠ .options ∧ method ≠ .get := by
    rcases write with rfl | rfl | rfl <;> decide
  have list : ¬count = 1 := by omega
  unfold Operation.of
  rw [if_neg other.1]
  change (if count = 1 then ofElement method else ofElements method count) = _
  rw [if_neg list]
  unfold ofElements
  rw [if_neg other.2, if_pos write]

variable {reason : Refusal}

/-- If one of two cases succeeds, a refusal comes from the other. -/
theorem error_of_ite {p : Prop} [Decidable p] {operation : Operation} {rest : Except Refusal Operation}
    (h : (if p then .ok operation else rest) = .error reason) : rest = .error reason := by
  split at h
  · cases h
  · exact h

/-- On a type no method is refused for anything but that it does not apply. -/
theorem refused_ofCollection (h : ofCollection method = .error reason) : reason = .methodNotAllowed method :=
  (Except.error.inj (error_of_ite (error_of_ite h))).symm

/-- On one entity no method is refused for anything but that it does not apply. -/
theorem refused_ofElement (h : ofElement method = .error reason) : reason = .methodNotAllowed method :=
  (Except.error.inj (error_of_ite (error_of_ite (error_of_ite h)))).symm

/-- On a list of entities a method is refused as a write, or because it does not apply. -/
theorem refused_ofElements (h : ofElements method count = .error reason) :
    (method = .put ∨ method = .post ∨ method = .delete) ∨ reason = .methodNotAllowed method := by
  have rest := error_of_ite h
  split at rest
  · next write => exact .inl write
  · exact .inr (Except.error.inj rest).symm

/-- On a relation no method is refused for anything but that it does not apply. -/
theorem refused_ofRelation (h : ofRelation method = .error reason) : reason = .methodNotAllowed method :=
  (Except.error.inj (error_of_ite h)).symm

/-- A method that picks no operation does not apply, unless it is a write to a list. -/
theorem of_of_not_picks (some : shape = .element → count ≠ 0) (unpicked : ∀ operation, ¬Picks shape method count operation)
    (single : ¬WritesToList shape method count) : Operation.of shape method count = .error (.methodNotAllowed method) := by
  cases picked : Operation.of shape method count with
  | ok operation => exact absurd (of_eq_ok_iff.1 picked) (unpicked operation)
  | error reason =>
    have refused := error_of_ite picked
    cases shape with
    | collection => rw [refused_ofCollection refused]
    | relation => rw [refused_ofRelation refused]
    | element =>
      change (if count = 1 then ofElement method else ofElements method count) = _ at refused
      split at refused
      · rw [refused_ofElement refused]
      · next list =>
        have several : 2 ≤ count := by
          have many := some rfl
          omega
        rcases refused_ofElements refused with write | allowed
        · exact absurd ⟨rfl, several, write⟩ single
        · rw [allowed]

end Operation

/-! ## Relations and bodies that are not accepted -/

section Unaccepted

variable (api : Api) (o : Offering) (shape : Shape) (request : Request)

/-- A relation that the schema does not declare is refused before its owner is asked for. -/
theorem Api.follow_of_undeclared {id name : String} (one : request.ids = [id]) (named : request.relation = some name)
    (undeclared : ∀ field ∈ o.schema.relations, field.name ≠ name) :
    api.performOn o shape request .follow = Engine.refuse (.unknownRelation name o.typeName) := by
  have none : o.schema.relation? name = none :=
    List.find?_eq_none.2 fun field declared => by simpa using undeclared field declared
  have unknown : o.relation (request.relation.getD "") = .error (.unknownRelation name o.typeName) := by
    unfold Offering.relation
    rw [named, Option.getD_some, none]
  unfold Api.performOn Api.follow
  rw [Request.onlyId_eq_ok_iff.2 one, unknown]
  rfl

variable {reason : Refusal} (unaccepted : Entity.ofBody o.schema request.body = .error reason)

include unaccepted in
/-- What a body is not accepted for, a creation is refused for. -/
theorem Api.create_of_unaccepted : api.performOn o shape request .create = Engine.refuse reason := by
  unfold Api.performOn Api.create
  rw [unaccepted]
  rfl

include unaccepted in
/-- What a body is not accepted for, a change of one entity is refused for. -/
theorem Api.update_of_unaccepted {id : String} (one : request.ids = [id]) :
    api.performOn o shape request .update = Engine.refuse reason := by
  unfold Api.performOn Api.update
  rw [Request.onlyId_eq_ok_iff.2 one, unaccepted]
  rfl

/-- A change is refused whose body names another id than the path. -/
theorem Api.update_of_mismatch {id : String} {sent : Entity} (one : request.ids = [id])
    (accepted : Entity.ofBody o.schema request.body = .ok sent) (given : sent.id ≠ "") (other : sent.id ≠ id) :
    api.performOn o shape request .update = Engine.refuse (.idMismatch sent.id id) := by
  have placed : sent.under id = .error (.idMismatch sent.id id) := by
    unfold Entity.under
    rw [if_neg (by simpa using given), if_neg other]
  unfold Api.performOn Api.update
  rw [Request.onlyId_eq_ok_iff.2 one, accepted]
  change Engine.accept (sent.under id) >>= _ = _
  rw [placed]
  rfl

end Unaccepted

/-! ## Being turned down -/

/-- A request is turned down: the response tells why, under this status, nobody was called, and nothing has changed. -/
structure Run.Rejects (run : Run σ Response) (s : σ) (requestId : String) (reason : Refusal) (status : Status) : Prop where
  value : run.value = (reason.fault.response requestId).finish requestId
  status : run.value.status = status
  idle : run.calls = []
  state : run.state = s

/-- A refusal is told under its status, also if nothing else is told of it. -/
theorem Refusal.status_response (reason : Refusal) (requestId : String) :
    ((reason.fault.response requestId).finish requestId).status = reason.fault.status := by
  rw [Response.status_finish, Response.status_fault]
  cases reason <;> rfl

namespace Registry

variable (registry : Registry σ) (mount : Mount) (requestId : String) {raw : RawRequest} (s : σ) {reason : Refusal}

/-- A request that is not received is turned down. -/
theorem rejects_of_receive (refused : (registry.api mount).receive raw = .error reason) :
    (((registry.api mount).respond requestId raw).run registry.backend s).Rejects s requestId reason
      reason.fault.status := by
  rw [(registry.api mount).run_respond_of_refused requestId refused]
  exact ⟨rfl, reason.status_response requestId, rfl, rfl⟩

section Routed

variable {shape : Shape} {request : Request} (routes : mount.Routes raw shape request)

include routes

/-- A request that is refused after it was routed is turned down. -/
theorem rejects_of_perform (refused : (registry.api mount).perform shape request = Engine.refuse reason) :
    (((registry.api mount).respond requestId raw).run registry.backend s).Rejects s requestId reason
      reason.fault.status := by
  have received : (registry.api mount).receive raw = .ok (shape, request) := Api.receive_of_routes routes
  rw [(registry.api mount).run_respond_of_received requestId received, refused]
  exact ⟨rfl, reason.status_response requestId, rfl, rfl⟩

/-- A type that is not served is not found, whatever else there is in the request. -/
theorem rejects_unserved (unserved : registry.lookup? request.resource = none) :
    (((registry.api mount).respond requestId raw).run registry.backend s).Rejects s requestId
      (.unknownType request.resource) .notFound := by
  refine registry.rejects_of_perform mount requestId s routes ?_
  rw [perform_eq, unserved]

variable {r : Resource σ} (served : registry.lookup? request.resource = some r)

include served

/-- A method that picks no operation is turned down, as it was refused. -/
theorem rejects_of_unpicked (unpicked : Operation.of shape request.method request.ids.length = .error reason) :
    (((registry.api mount).respond requestId raw).run registry.backend s).Rejects s requestId reason
      reason.fault.status := by
  refine registry.rejects_of_perform mount requestId s routes ?_
  rw [perform_eq, served, unpicked]
  rfl

/-- A request that its operation refuses is turned down. -/
theorem rejects_of_performOn {operation : Operation}
    (picks : Operation.Picks shape request.method request.ids.length operation)
    (refused : (registry.api mount).performOn r.offering shape request operation = Engine.refuse reason) :
    (((registry.api mount).respond requestId raw).run registry.backend s).Rejects s requestId reason
      reason.fault.status := by
  refine registry.rejects_of_perform mount requestId s routes ?_
  rw [registry.perform_of_served mount shape request served (Operation.of_eq_ok_iff.2 picks), refused]

/-- A write to a list of entities is a failure. -/
theorem rejects_list (list : Operation.WritesToList shape raw.method request.ids.length) :
    (((registry.api mount).respond requestId raw).run registry.backend s).Rejects s requestId
      (.writeToList raw.method request.ids.length) .internalServerError := by
  rw [← routes.method] at list ⊢
  exact registry.rejects_of_unpicked mount requestId s routes served (Operation.of_of_writesToList list)

/-- Any other method that picks no operation is not allowed. -/
theorem rejects_unmapped (unpicked : ∀ operation, ¬Operation.Picks shape raw.method request.ids.length operation)
    (single : ¬Operation.WritesToList shape raw.method request.ids.length) :
    (((registry.api mount).respond requestId raw).run registry.backend s).Rejects s requestId
      (.methodNotAllowed raw.method) .methodNotAllowed := by
  rw [← routes.method] at unpicked single ⊢
  have some : shape = .element → request.ids.length ≠ 0 := by
    rintro rfl
    simpa using routes.ids_ne_nil
  exact registry.rejects_of_unpicked mount requestId s routes served (Operation.of_of_not_picks some unpicked single)

/-- A relation that the type does not declare is not found. -/
theorem rejects_undeclared {name : String} (named : request.relation = some name) (get : raw.method = .get)
    (undeclared : ∀ field ∈ r.schema.relations, field.name ≠ name) :
    (((registry.api mount).respond requestId raw).run registry.backend s).Rejects s requestId
      (.unknownRelation name r.typeName) .notFound := by
  cases routes with
  | collection | element => cases named
  | @relation body type segment id relation names one =>
    have picks : Operation.Picks .relation (raw.routed body type [id] (some relation)).method [id].length .follow :=
      (show (raw.routed body type [id] (some relation)).method = .get from get) ▸ .follow _
    exact registry.rejects_of_performOn mount requestId s (.relation names one) served picks
      (Api.follow_of_undeclared _ _ _ _ rfl named undeclared)

/-- A body that is not accepted is told as it is, be it to create an entity or to change one. -/
theorem rejects_unaccepted (unaccepted : Entity.ofBody r.schema request.body = .error reason)
    (write : shape = .collection ∧ raw.method = .post ∨ shape = .element ∧ raw.method = .put ∧ request.ids.length = 1) :
    (((registry.api mount).respond requestId raw).run registry.backend s).Rejects s requestId reason
      reason.fault.status := by
  rw [← routes.method] at write
  rcases write with ⟨rfl, post⟩ | ⟨rfl, put, one⟩
  · exact registry.rejects_of_performOn mount requestId s routes served (post ▸ .create _)
      (Api.create_of_unaccepted _ _ _ _ unaccepted)
  · obtain ⟨id, one⟩ := List.length_eq_one_iff.1 one
    have picks : Operation.Picks .element request.method request.ids.length .update := by
      rw [put, one]
      exact .update
    exact registry.rejects_of_performOn mount requestId s routes served picks
      (Api.update_of_unaccepted _ _ _ _ unaccepted one)

/-- An entity is not changed into one of another id. -/
theorem rejects_mismatch {id : String} {sent : Entity} (one : request.ids = [id]) (element : shape = .element)
    (put : raw.method = .put) (accepted : Entity.ofBody r.schema request.body = .ok sent) (given : sent.id ≠ "")
    (other : sent.id ≠ id) :
    (((registry.api mount).respond requestId raw).run registry.backend s).Rejects s requestId (.idMismatch sent.id id)
      .badRequest := by
  subst element
  have picks : Operation.Picks .element request.method request.ids.length .update := by
    rw [routes.method, put, one]
    exact .update
  exact registry.rejects_of_performOn mount requestId s routes served picks
    (Api.update_of_mismatch _ _ _ _ one accepted given other)

end Routed

end Registry

/-! ## The order of rejections -/

/-- A fault of the server is told by nothing but its status. -/
theorem Run.Rejects.body_of_internal {run : Run σ Response} {s : σ} {requestId : String} {reason : Refusal}
    {status : Status} (h : run.Rejects s requestId reason status) (silent : reason.fault.kind = .internal) :
    run.value.body.content = [] := by
  rw [h.value, Response.body_finish, Response.ofFault_of_internal silent]
  rfl

/-- A request for the methods that apply is answered at once. -/
theorem Registry.run_respond_of_options (registry : Registry σ) (mount : Mount) (requestId : String) {raw : RawRequest}
    {shape : Shape} {request : Request} (routes : mount.Routes raw shape request) {r : Resource σ}
    (served : registry.lookup? request.resource = some r) (options : raw.method = .options) (s : σ) :
    ((registry.api mount).respond requestId raw).run registry.backend s =
      ⟨(Response.ofResult requestId (.ok (.noContent (some shape.allow)))).finish requestId, [], s⟩ := by
  have received : (registry.api mount).receive raw = .ok (shape, request) := Api.receive_of_routes routes
  have picked : Operation.of shape request.method request.ids.length = .ok .options := by
    rw [routes.method, options]
    rfl
  rw [(registry.api mount).run_respond_of_received requestId received, registry.perform_of_served mount shape request served picked]
  rfl

/-- A request whose body breaks off fails, whatever it asks for. Otherwise a path that leads nowhere counts first: it is not
found. Then the type counts, whatever the method, the body and the ids are: one that is not served is not found. Then the
method counts: the methods that apply are told to whoever asks for them, and a method that does not apply is not allowed,
except that a write to a list of entities is a failure. At last it counts whether a relation that is to be read is declared,
and whether the body of an entity that is to be written is accepted and names no other id than the path. In all of these
cases nobody is called and nothing changes. -/
theorem rejected_requests_reach_nobody (registry : Registry σ) (mount : Mount) (requestId : String) (raw : RawRequest)
    (s : σ) :
    let run := ((registry.api mount).respond requestId raw).run registry.backend s
    (∀ reason, Chunk.collect raw.chunks = .error reason →
        run.Rejects s requestId (.unreadableBody reason) .internalServerError ∧ run.value.body.content = []) ∧
      (∀ body, Chunk.collect raw.chunks = .ok body →
        (¬mount.Leads raw.target.path →
            run.Rejects s requestId (.noRoute (Path.segments raw.target.path)) .notFound) ∧
          (mount.Leads raw.target.path → ∃ shape request, mount.Routes raw shape request)) ∧
      ∀ shape request, mount.Routes raw shape request →
        (registry.lookup? request.resource = none →
            run.Rejects s requestId (.unknownType request.resource) .notFound) ∧
          ∀ r, registry.lookup? request.resource = some r →
            (raw.method = .options →
                run.value.status = .noContent ∧ run.value.headers.values "allow" = [Utf8.encode shape.allow] ∧
                  run.calls = [] ∧ run.state = s) ∧
              (Operation.WritesToList shape raw.method request.ids.length →
                run.Rejects s requestId (.writeToList raw.method request.ids.length) .internalServerError ∧
                  run.value.body.content = []) ∧
              ((∀ operation, ¬Operation.Picks shape raw.method request.ids.length operation) →
                ¬Operation.WritesToList shape raw.method request.ids.length →
                run.Rejects s requestId (.methodNotAllowed raw.method) .methodNotAllowed) ∧
              (∀ name, request.relation = some name → raw.method = .get →
                (∀ field ∈ r.schema.relations, field.name ≠ name) →
                run.Rejects s requestId (.unknownRelation name r.typeName) .notFound) ∧
              (∀ reason, Entity.ofBody r.schema request.body = .error reason →
                shape = .collection ∧ raw.method = .post ∨
                  shape = .element ∧ raw.method = .put ∧ request.ids.length = 1 →
                run.Rejects s requestId reason reason.fault.status) ∧
              ∀ id sent, request.ids = [id] → shape = .element → raw.method = .put →
                Entity.ofBody r.schema request.body = .ok sent → sent.id ≠ "" → sent.id ≠ id →
                run.Rejects s requestId (.idMismatch sent.id id) .badRequest := by
  intro run
  refine ⟨?broken, ?lost, ?routed⟩
  case broken =>
    intro reason broken
    have rejects := registry.rejects_of_receive mount requestId s (Api.receive_of_broken broken)
    exact ⟨rejects, rejects.body_of_internal rfl⟩
  case lost =>
    intro body whole
    exact ⟨fun lost => registry.rejects_of_receive mount requestId s (Api.receive_of_not_leads whole lost),
      fun leads => leads.routes whole⟩
  case routed =>
    intro shape request routes
    refine ⟨registry.rejects_unserved mount requestId s routes, fun r served => ⟨?options, ?list, ?unmapped, ?undeclared,
      ?unaccepted, ?mismatch⟩⟩
    case options =>
      intro options
      have told := registry.run_respond_of_options mount requestId routes served options s
      rw [show run = _ from told]
      refine ⟨Response.status_finish _ _, ?_, rfl, rfl⟩
      rw [Response.values_finish _ _ (by decide) (by decide) (by decide)]
      exact (Response.values_setHeader _ _ _ _).trans (if_pos rfl)
    case list =>
      intro list
      have rejects := registry.rejects_list mount requestId s routes served list
      exact ⟨rejects, rejects.body_of_internal rfl⟩
    case unmapped => exact registry.rejects_unmapped mount requestId s routes served
    case undeclared => exact fun name => registry.rejects_undeclared mount requestId s routes served
    case unaccepted => exact fun reason => registry.rejects_unaccepted mount requestId s routes served
    case mismatch => exact fun id sent => registry.rejects_mismatch mount requestId s routes served

namespace Blog

/-- A request whose path leads nowhere and whose body breaks off. -/
def brokenOff : RawRequest where
  method := .get
  target := ⟨"/a/b/c/d", ""⟩
  headers := .empty
  chunks := [.failure "reset"]

/-- A request to change a post into another one. -/
def mistaken : RawRequest :=
  .plain .put "/posts/1" "\x7b\"posts\": \x7b\"id\": \"2\"\x7d\x7d"

end Blog

/-- Two users that are not served under this name are not found, however unreadable the change is that is asked for; and a
post is not changed into another one. Nobody is called for either. -/
theorem blog_rejections :
    let stray : RawRequest := .plain .put "/people/7,8" "nonsense"
    let lost := ((Blog.registry.api .root).respond "7" stray).run Blog.registry.backend ()
    let kept := ((Blog.registry.api .root).respond "8" Blog.mistaken).run Blog.registry.backend ()
    lost.Rejects () "7" (.unknownType "people") .notFound ∧ kept.Rejects () "8" (.idMismatch "2" "1") .badRequest := by
  intro stray lost kept
  have people : Mount.root.Names stray (Utf8.encode "nonsense") ["people", "7,8"] := ⟨rfl, by decide +kernel⟩
  have post : Mount.root.Names Blog.mistaken _ ["posts", "1"] := ⟨rfl, by decide +kernel⟩
  obtain ⟨-, -, routed⟩ := rejected_requests_reach_nobody Blog.registry .root "7" stray ()
  obtain ⟨-, -, routed'⟩ := rejected_requests_reach_nobody Blog.registry .root "8" Blog.mistaken ()
  have unserved := (routed _ _ (.element people (by decide +kernel))).1
  obtain ⟨-, -, -, -, -, mismatch⟩ := (routed' _ _ (.element post (by decide +kernel))).2 _ rfl
  have read : (Entity.ofBody Blog.posts (Utf8.encode "\x7b\"posts\": \x7b\"id\": \"2\"\x7d\x7d")).toOption.map Entity.id =
      some "2" := by decide +kernel
  obtain ⟨sent, accepted, named⟩ := Option.map_eq_some_iff.1 read
  have rejects := mismatch "1" sent (by decide +kernel) rfl rfl (ok_of_toOption accepted)
  rw [named] at rejects
  exact ⟨unserved rfl, rejects (by decide) (by decide)⟩

/-- A body that breaks off counts before a path that leads nowhere: the server fails, and does not say that nothing was
found. -/
theorem broken_body_before_path :
    let run := ((Blog.registry.api .root).respond "7" Blog.brokenOff).run Blog.registry.backend ()
    ¬Mount.root.Leads Blog.brokenOff.target.path ∧ run.value.status = .internalServerError := by
  have path : Path.segments Blog.brokenOff.target.path = ["a", "b", "c", "d"] := by decide +kernel
  refine ⟨fun leads => ?_, by decide +kernel⟩
  cases leads with
  | collection segments | element segments | relation segments =>
    rw [path] at segments
    cases segments

end ResourceApi
