import ResourceApi.Proofs.Api.Isolation
import ResourceApi.Proofs.Route.Grammar

/-!
# Branches that no routed request takes

An operation looks at its request once more: whether it has just one id, whether it names a relation, and whether what it names
leads to a type at all. Of a request that was routed all this is known, since what its path names fits the operation that its
method picks (`Operation.Fits`), and only relations are looked up by name. So it makes no difference what stands in the
branches for other requests. `Stopgaps` is anything that might stand there, `Api.performOr` performs requests with it, and
requests that were routed are always performed alike (`stopgaps_stay_unused`).
-/

namespace ResourceApi

/-- What an operation goes on with: the ids and the relation that it needs, and no others. -/
inductive Operation.Fits : Operation → List String → Option String → Prop
  | list : Fits .list [] none
  | create : Fits .create [] none
  | fetch (id : String) : Fits .fetch [id] none
  | update (id : String) : Fits .update [id] none
  | delete (id : String) : Fits .delete [id] none
  | fetchMany (first second : String) (more : List String) : Fits .fetchMany (first :: second :: more) none
  | follow (id name : String) : Fits .follow [id] (some name)
  | options (ids : List String) (relation : Option String) : Fits .options ids relation

/-! ## Engines with something else in these branches -/

/-- What may stand in the branches for requests that an operation cannot go on with. -/
structure Stopgaps where
  /-- What is taken for the id of a request that does not have just one. -/
  id : Request → Except Refusal String
  /-- What is taken for the relation of a request that names none. -/
  relation : String
  /-- What is taken for the relatives of a record by a field that is no relation. -/
  relatives : Record → Field → Engine Relatives

/-- What does stand there. -/
def Stopgaps.own : Stopgaps where
  id request := .error (.notOneId request.ids.length)
  relation := ""
  relatives _ field := Engine.refuse (.notARelation field.name)

/-- The only id of a request. -/
def Request.onlyIdOr (gaps : Stopgaps) (r : Request) : Except Refusal String :=
  match r.id? with
  | some id => .ok id
  | none => gaps.id r

/-- What a field of a record leads to. -/
def Viewpoint.relatedOr (gaps : Stopgaps) (v : Viewpoint) (owner : Record) (field : Field) : Engine Relatives :=
  match field.target? with
  | none => gaps.relatives owner field
  | some target =>
    match v.catalogue.schema? target with
    | none => Engine.refuse (.unknownType target)
    | some schema => v.relatedIn owner schema field.key?

namespace Api

/-- Read one entity. -/
def fetchOr (gaps : Stopgaps) (api : Api) (o : Offering) (request : Request) : Engine Outcome := do
  let id ← Engine.accept (request.onlyIdOr gaps)
  let entity ← o.answer request (.fetch id) (Engine.fetch o.typeName id request)
  let report ← (api.viewpoint request).reportOf ⟨o.schema, entity⟩
  return .document .ok report.document none

/-- Read what a relation of an entity leads to. -/
def followOr (gaps : Stopgaps) (api : Api) (o : Offering) (request : Request) : Engine Outcome := do
  let id ← Engine.accept (request.onlyIdOr gaps)
  let field ← Engine.accept (o.relation (request.relation.getD gaps.relation))
  let entity ← Engine.fetch o.typeName id request
  let related ← (api.viewpoint request).relatedOr gaps ⟨o.schema, entity⟩ field
  let report ← (api.viewpoint request).reportOfRelatives related
  return .document .ok report.document none

/-- Change an entity as the body says. -/
def updateOr (gaps : Stopgaps) (o : Offering) (request : Request) : Engine Outcome := do
  let id ← Engine.accept (request.onlyIdOr gaps)
  let sent ← Engine.accept (Entity.ofBody o.schema request.body)
  let entity ← Engine.accept (sent.under id)
  o.answer request (.update entity) (Engine.update o.typeName entity)
  return .noContent none

/-- Remove an entity. -/
def deleteOr (gaps : Stopgaps) (o : Offering) (request : Request) : Engine Outcome := do
  let id ← Engine.accept (request.onlyIdOr gaps)
  o.answer request (.delete id) (Engine.delete o.typeName id)
  return .noContent none

/-- Perform an operation on a resource. -/
def performOnOr (gaps : Stopgaps) (api : Api) (o : Offering) (shape : Shape) (request : Request) :
    Operation → Engine Outcome
  | .fetch => api.fetchOr gaps o request
  | .follow => api.followOr gaps o request
  | .update => updateOr gaps o request
  | .delete => deleteOr gaps o request
  | operation => api.performOn o shape request operation

/-- Perform a routed request. -/
def performOr (gaps : Stopgaps) (api : Api) (shape : Shape) (request : Request) : Engine Outcome := do
  let o ← Engine.accept (api.catalogue.find request.resource)
  let operation ← Engine.accept (Operation.of shape request.method request.ids.length)
  api.performOnOr gaps o shape request operation

end Api

/-! ## What is known of routed requests -/

/-- What a path names fits the operation that a method picks on it. -/
theorem Mount.Form.fits {rest : List String} {shape : Shape} {type : String} {ids : List String} {relation : Option String}
    (form : Mount.Form rest shape type ids relation) {method : Method} {operation : Operation}
    (picks : Operation.Picks shape method ids.length operation) : operation.Fits ids relation := by
  generalize counted : ids.length = count at picks
  cases form with
  | collection type =>
    cases picks with
    | options => exact .options _ _
    | list => exact .list
    | create => exact .create
  | element lists some =>
    match ids, some with
    | [id], _ =>
      subst counted
      cases picks with
      | options => exact .options _ _
      | fetch => exact .fetch id
      | update => exact .update id
      | delete => exact .delete id
      | fetchMany several => exact absurd rfl several
    | first :: second :: more, _ =>
      cases picks with
      | options => exact .options _ _
      | fetchMany several => exact .fetchMany first second more
      | fetch | update | delete => simp at counted
  | @relation type segment id name lists =>
    cases picks with
    | options => exact .options _ _
    | follow => exact .follow id name

/-- An operation on one entity finds its id. -/
theorem Operation.Fits.onlyId {operation : Operation} {request : Request}
    (fits : operation.Fits request.ids request.relation)
    (single : operation ∈ [Operation.fetch, .update, .delete, .follow]) :
    ∃ id, request.ids = [id] ∧ request.onlyId = .ok id := by
  have one : ∃ id, request.ids = [id] := by
    generalize request.ids = ids, request.relation = relation at fits
    cases fits with
    | fetch id | update id | delete id | follow id name => exact ⟨id, rfl⟩
    | list | create | fetchMany | options => simp at single
  obtain ⟨id, one⟩ := one
  exact ⟨id, one, Request.onlyId_eq_ok_iff.2 one⟩

/-- What is found as a relation leads to a type. -/
theorem Offering.exists_target_of_relation {o : Offering} {name : String} {field : Field}
    (found : o.relation name = .ok field) : ∃ target, field.target? = some target :=
  Option.isSome_iff_exists.1 (List.mem_filter.1 (Offering.mem_of_relation found)).2

/-! ## Whatever stands in these branches -/

/-- Where there is one id, nothing is taken for it. -/
theorem Request.onlyIdOr_of_one {request : Request} {id : String} (one : request.ids = [id]) (gaps : Stopgaps) :
    request.onlyIdOr gaps = request.onlyId := by
  unfold onlyIdOr onlyId id?
  rw [one]

/-- Where a field leads to a type, nothing is taken for its relatives. -/
theorem Viewpoint.relatedOr_of_target {field : Field} {target : String} (leads : field.target? = some target)
    (gaps : Stopgaps) (v : Viewpoint) (owner : Record) : v.relatedOr gaps owner field = v.related owner field := by
  unfold relatedOr related
  generalize field.target? = found at leads
  subst leads
  rfl

namespace Api

/-- With what does stand in these branches, requests are performed as they are. -/
theorem performOr_own (api : Api) : api.performOr .own = api.perform := by
  have same (o : Offering) (shape : Shape) (request : Request) (operation : Operation) :
      api.performOnOr .own o shape request operation = api.performOn o shape request operation := by
    cases operation <;> rfl
  funext shape request
  unfold performOr perform
  simp only [same]

section Fits

variable (gaps : Stopgaps) (api : Api) (o : Offering) {request : Request} {id : String} (one : request.ids = [id])

include one

/-- A request with one id and a relation is followed without stopgaps. -/
theorem followOr_of_named {name : String} (named : request.relation = some name) :
    api.followOr gaps o request = api.follow o request := by
  unfold followOr follow
  rw [Request.onlyIdOr_of_one one, named, Option.getD_some, Option.getD_some]
  cases found : o.relation name with
  | error reason => rfl
  | ok field =>
    obtain ⟨target, leads⟩ := Offering.exists_target_of_relation found
    simp only [Engine.accept_ok_bind, Viewpoint.relatedOr_of_target leads]

/-- An entity is read by its one id without stopgaps. -/
theorem fetchOr_of_one : api.fetchOr gaps o request = api.fetch o request := by
  unfold fetchOr fetch
  rw [Request.onlyIdOr_of_one one]

/-- An entity is changed under its one id without stopgaps. -/
theorem updateOr_of_one : updateOr gaps o request = update o request := by
  unfold updateOr update
  rw [Request.onlyIdOr_of_one one]

/-- An entity is removed by its one id without stopgaps. -/
theorem deleteOr_of_one : deleteOr gaps o request = delete o request := by
  unfold deleteOr delete
  rw [Request.onlyIdOr_of_one one]

end Fits

/-- An operation that has what it needs takes none of these branches. -/
theorem performOnOr_of_fits (gaps : Stopgaps) (api : Api) (o : Offering) (shape : Shape) {request : Request}
    {operation : Operation} (fits : operation.Fits request.ids request.relation) :
    api.performOnOr gaps o shape request operation = api.performOn o shape request operation := by
  generalize ids : request.ids = ids, related : request.relation = relation at fits
  cases fits with
  | list | create | fetchMany | options => rfl
  | fetch id => exact fetchOr_of_one gaps api o ids
  | update id => exact updateOr_of_one gaps o ids
  | delete id => exact deleteOr_of_one gaps o ids
  | follow id name => exact followOr_of_named gaps api o ids related

end Api

/-- A request that was routed has all that the operation needs that its method picks: one id to read, to change or to remove an
entity or to follow a relation of it, the name of this relation, at least two ids to read several entities, and none to list or
to create any. And what is found under the name of a relation leads to a type. So whatever stood in the branches for other
requests, in the place of what does stand there, this one would be performed in the same way, with the same calls and the same
outcome. -/
theorem stopgaps_stay_unused (api : Api) {incoming : Incoming} {shape : Shape} {request : Request}
    (routed : api.mount.route incoming = .ok (shape, request)) :
    (∀ operation, Operation.of shape request.method request.ids.length = .ok operation →
        operation.Fits request.ids request.relation ∧
          (operation ∈ [Operation.fetch, .update, .delete, .follow] →
            ∃ id, request.ids = [id] ∧ request.onlyId = .ok id)) ∧
      (∀ o ∈ api.catalogue.offerings, ∀ name field, o.relation name = .ok field → ∃ target, field.target? = some target) ∧
      api.performOr .own = api.perform ∧ ∀ gaps, api.performOr gaps shape request = api.perform shape request := by
  obtain ⟨rest, -, form⟩ := (Mount.route_eq_ok_iff.1 routed).path
  have fits {operation : Operation} (picked : Operation.of shape request.method request.ids.length = .ok operation) :
      operation.Fits request.ids request.relation := form.fits (Operation.of_eq_ok_iff.1 picked)
  refine ⟨fun operation picked => ⟨fits picked, (fits picked).onlyId⟩, ?leads, api.performOr_own, ?unused⟩
  case leads => exact fun o _ name field => Offering.exists_target_of_relation
  case unused =>
    intro gaps
    unfold Api.performOr Api.perform
    cases picked : Operation.of shape request.method request.ids.length with
    | error reason => rfl
    | ok operation => simp only [Engine.accept_ok_bind, Api.performOnOr_of_fits gaps api _ shape (fits picked)]

namespace Blog

/-- Branches in which some post is taken, and its comments, and nothing is refused. -/
def lenient : Stopgaps where
  id _ := .ok "2"
  relation := "comments"
  relatives _ _ := pure (.many [])

end Blog

/-- The author of a post is asked for with one id and a name, and is read in the same way if every other request is read
leniently. -/
theorem author_read_without_stopgaps :
    let incoming : Incoming := ⟨.get, ["posts", "1", "author"], .empty, .empty, []⟩
    let request : Request := ⟨.get, "posts", ["1"], some "author", .empty, .empty, []⟩
    let api := Blog.registry.api .root
    api.mount.route incoming = .ok (.relation, request) ∧ Operation.of .relation .get 1 = .ok .follow ∧
      request.onlyId = .ok "1" ∧ api.performOr Blog.lenient .relation request = api.perform .relation request := by
  intro incoming request api
  have routed : api.mount.route incoming = .ok (.relation, request) := rfl
  obtain ⟨needs, -, -, unused⟩ := stopgaps_stay_unused api routed
  obtain ⟨-, single⟩ := needs .follow rfl
  obtain ⟨id, one, found⟩ := single (by decide)
  obtain rfl : "1" = id := (List.cons.inj one).1
  exact ⟨routed, rfl, found, unused Blog.lenient⟩

end ResourceApi
