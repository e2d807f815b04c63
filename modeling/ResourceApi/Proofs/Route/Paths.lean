import ResourceApi.Api.Respond

/-!
# Where paths lead

A request that comes in whole leads to the type, the ids and the relation that its path names below the mount point, and
to nothing else: `Mount.Routes` lists the three forms of such a path, and `Api.receive_eq_ok_iff` says that exactly these
are received. The operation is picked by the form, the method and the number of ids (`Operation.of_eq_ok_iff`).
-/

namespace ResourceApi

/-- A request as it is routed, once its body has come in. -/
def RawRequest.routed (raw : RawRequest) (body : Bytes) (type : String) (ids : List String) (relation : Option String) :
    Request where
  method := raw.method
  resource := type
  ids := ids
  relation := relation
  query := Query.ofText raw.target.query
  headers := raw.headers
  body := body

/-- A request with nothing but a method, a path and a body, which comes in one piece. -/
def RawRequest.plain (method : Method) (path body : String) : RawRequest where
  method := method
  target := ⟨path, ""⟩
  headers := .empty
  chunks := [.data (Utf8.encode body)]

/-- A request has come in whole, and its path names these segments below the mount point. -/
structure Mount.Names (mount : Mount) (raw : RawRequest) (body : Bytes) (rest : List String) : Prop where
  whole : Chunk.collect raw.chunks = .ok body
  path : Path.segments raw.target.path = mount.segments ++ rest

/-- The routes below a mount point: to a type, to some of its entities, and to a relation of one of them. -/
inductive Mount.Routes (mount : Mount) (raw : RawRequest) : Shape → Request → Prop
  | collection {body : Bytes} {type : String} (names : mount.Names raw body [type]) :
    Routes mount raw .collection (raw.routed body type [] none)
  | element {body : Bytes} {type segment : String} (names : mount.Names raw body [type, segment])
    (some : Mount.idsOf segment ≠ []) : Routes mount raw .element (raw.routed body type (Mount.idsOf segment) none)
  | relation {body : Bytes} {type segment id relation : String} (names : mount.Names raw body [type, segment, relation])
    (one : Mount.idsOf segment = [id]) : Routes mount raw .relation (raw.routed body type [id] (some relation))

namespace Mount

/-- The segments below a mount are what follows its own. -/
theorem below?_eq_some_iff {m : Mount} {segments rest : List String} :
    m.below? segments = some rest ↔ segments = m.segments ++ rest := by
  unfold below?
  simp only [List.isPrefixOf_iff_prefix]
  constructor
  · intro h
    split at h
    · next below =>
      obtain ⟨more, rfl⟩ := below
      obtain rfl : more = rest := by simpa using h
      rfl
    · cases h
  · rintro rfl
    simp

/-- A type and a segment that lists ids make an element route. -/
theorem parts?_element {type segment : String} (h : idsOf segment ≠ []) :
    parts? [type, segment] = some (.element, type, idsOf segment, none) := by
  cases ids : idsOf segment with
  | nil => exact absurd ids h
  | cons first more => simp only [parts?, ids]

/-- A third segment names a relation where the second lists one id. -/
theorem parts?_relation {type segment id relation : String} (h : idsOf segment = [id]) :
    parts? [type, segment, relation] = some (.relation, type, [id], some relation) := by
  simp only [parts?, h]

/-- A path below the mount is routed with the parts its segments are recognised as. -/
theorem route_eq_of_parts {m : Mount} {incoming : Incoming} {rest : List String} {shape : Shape} {type : String}
    {ids : List String} {relation : Option String} (path : incoming.segments = m.segments ++ rest)
    (parts : parts? rest = some (shape, type, ids, relation)) :
    m.route incoming = .ok (shape, {
      method := incoming.method, resource := type, ids := ids, relation := relation, query := incoming.query,
      headers := incoming.headers, body := incoming.body }) := by
  unfold route
  rw [below?_eq_some_iff.2 path, Option.bind_some, parts]

/-- The segments below a mount point have one of three forms, or the path leads nowhere. -/
theorem parts?_cases {rest : List String} {shape : Shape} {type : String} {ids : List String} {relation : Option String}
    (h : parts? rest = some (shape, type, ids, relation)) :
    (shape = .collection ∧ rest = [type] ∧ ids = [] ∧ relation = none) ∨
      (∃ segment, shape = .element ∧ rest = [type, segment] ∧ ids = idsOf segment ∧ ids ≠ [] ∧ relation = none) ∨
      ∃ segment id name, shape = .relation ∧ rest = [type, segment, name] ∧ idsOf segment = [id] ∧ ids = [id] ∧
        relation = some name := by
  unfold parts? at h
  split at h
  · next =>
    cases h
    exact .inl ⟨rfl, rfl, rfl, rfl⟩
  · next segment =>
    split at h
    · cases h
    · next first more found =>
      cases h
      exact .inr (.inl ⟨segment, rfl, rfl, found.symm, List.cons_ne_nil _ _, rfl⟩)
  · next segment name =>
    split at h
    · next id found =>
      cases h
      exact .inr (.inr ⟨segment, id, name, rfl, rfl, found, rfl, rfl⟩)
    · cases h
  · cases h

end Mount

namespace Api

variable {api : Api} {raw : RawRequest}

/-- A request that comes in whole on one of the three forms of paths is received. -/
theorem receive_of_routes {shape : Shape} {request : Request} (h : api.mount.Routes raw shape request) :
    api.receive raw = .ok (shape, request) := by
  cases h with
  | collection names =>
    unfold receive
    rw [names.whole]
    exact Mount.route_eq_of_parts names.path rfl
  | element names some =>
    unfold receive
    rw [names.whole]
    exact Mount.route_eq_of_parts names.path (Mount.parts?_element some)
  | relation names one =>
    unfold receive
    rw [names.whole]
    exact Mount.route_eq_of_parts names.path (Mount.parts?_relation one)

/-- And no other is. -/
theorem routes_of_receive {shape : Shape} {request : Request} (h : api.receive raw = .ok (shape, request)) :
    api.mount.Routes raw shape request := by
  unfold receive at h
  split at h
  · cases h
  · next body whole =>
    unfold Mount.route at h
    split at h
    · cases h
    · next shape type ids relation found =>
      obtain ⟨rest, below, parts⟩ := Option.bind_eq_some_iff.1 found
      have names : api.mount.Names raw body rest := ⟨whole, Mount.below?_eq_some_iff.1 below⟩
      cases h
      rcases Mount.parts?_cases parts with ⟨rfl, rfl, rfl, rfl⟩ | ⟨segment, rfl, rfl, rfl, some, rfl⟩ |
        ⟨segment, id, name, rfl, rfl, one, rfl, rfl⟩
      · exact .collection names
      · exact .element names some
      · exact .relation names one

/-- A raw request is received exactly where its mount routes it. -/
theorem receive_eq_ok_iff {shape : Shape} {request : Request} :
    api.receive raw = .ok (shape, request) ↔ api.mount.Routes raw shape request :=
  ⟨routes_of_receive, receive_of_routes⟩

end Api

namespace Mount.Routes

variable {mount : Mount} {raw : RawRequest} {shape shape' : Shape} {request request' : Request}

theorem method (h : mount.Routes raw shape request) : request.method = raw.method := by
  cases h <;> rfl

/-- A request is routed in one way. -/
theorem unique (h : mount.Routes raw shape request) (h' : mount.Routes raw shape' request') :
    shape = shape' ∧ request = request' := by
  let api : Api := ⟨⟨[], .nil⟩, mount⟩
  have received : api.receive raw = .ok (shape, request) := Api.receive_of_routes h
  have received' : api.receive raw = .ok (shape', request') := Api.receive_of_routes h'
  rw [received] at received'
  exact Prod.mk.inj (Except.ok.inj received')

end Mount.Routes

/-! ## Operations -/

namespace Operation

/-- Which method on which route picks which operation. -/
inductive Picks : Shape → Method → Nat → Operation → Prop
  | options (shape : Shape) (count : Nat) : Picks shape .options count .options
  | list (count : Nat) : Picks .collection .get count .list
  | create (count : Nat) : Picks .collection .post count .create
  | fetch : Picks .element .get 1 .fetch
  | update : Picks .element .put 1 .update
  | delete : Picks .element .delete 1 .delete
  | fetchMany {count : Nat} (several : count ≠ 1) : Picks .element .get count .fetchMany
  | follow (count : Nat) : Picks .relation .get count .follow

variable {shape : Shape} {method : Method} {count : Nat} {operation : Operation}

/-- Only a POST on a collection creates. -/
theorem Picks.of_create (h : Picks shape method count .create) : shape = .collection ∧ method = .post := by
  cases h
  exact ⟨rfl, rfl⟩

/-- Only a PUT on an element updates. -/
theorem Picks.of_update (h : Picks shape method count .update) : shape = .element ∧ method = .put := by
  cases h
  exact ⟨rfl, rfl⟩

/-- Only a DELETE on an element deletes. -/
theorem Picks.of_delete (h : Picks shape method count .delete) : shape = .element ∧ method = .delete := by
  cases h
  exact ⟨rfl, rfl⟩

theorem picks_of_ofElement (h : ofElement method = .ok operation) : Picks .element method 1 operation := by
  unfold ofElement at h
  split at h
  · next get =>
    cases h
    exact get ▸ .fetch
  · split at h
    · next put =>
      cases h
      exact put ▸ .update
    · split at h
      · next delete =>
        cases h
        exact delete ▸ .delete
      · cases h

theorem picks_of_ofElements (several : count ≠ 1) (h : ofElements method count = .ok operation) :
    Picks .element method count operation := by
  unfold ofElements at h
  split at h
  · next get =>
    cases h
    exact get ▸ .fetchMany several
  · split at h <;> cases h

theorem picks_of_ofCollection (h : ofCollection method = .ok operation) :
    Picks .collection method count operation := by
  unfold ofCollection at h
  split at h
  · next get =>
    cases h
    exact get ▸ .list count
  · split at h
    · next post =>
      cases h
      exact post ▸ .create count
    · cases h

theorem picks_of_ofRelation (h : ofRelation method = .ok operation) : Picks .relation method count operation := by
  unfold ofRelation at h
  split at h
  · next get =>
    cases h
    exact get ▸ .follow count
  · cases h

/-- The operations are picked by this table. -/
theorem of_eq_ok_iff : Operation.of shape method count = .ok operation ↔ Picks shape method count operation := by
  constructor
  · intro h
    unfold Operation.of at h
    split at h
    · next options =>
      cases h
      exact options ▸ .options shape count
    · split at h
      · exact picks_of_ofCollection h
      · split at h
        · next one => exact one ▸ picks_of_ofElement h
        · next several => exact picks_of_ofElements several h
      · exact picks_of_ofRelation h
  · intro h
    cases h with
    | options | list | create | fetch | update | delete | follow => rfl
    | fetchMany several => simp [Operation.of, ofElements, several, Method.get, Method.options]

end Operation

end ResourceApi
