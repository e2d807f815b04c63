import ResourceApi.Proofs.Document.Report
import ResourceApi.Proofs.Registry.Controllers

/-!
# Operations in parts

An operation that a controller may decide on has three parts: what has to be accepted before there is anything to decide
on (`Offering.hook`), what the data source does (`Offering.own`), and what is told of the answer (`Api.tell`). The
controller stands between the first two (`Api.performOn_of_hook`), and an operation that comes to no decision is the same
without it (`Api.performOn_bare_of_ne`).
-/

namespace ResourceApi

/-- A resource without its controller. -/
def Offering.bare (o : Offering) : Offering :=
  { o with controlled := false }

/-- What a controller is asked about a request for an operation, or the refusal of a request that does not come so far.
Where one id is addressed, there has to be one, and where an entity is sent, it has to be accepted. Nothing is asked about
lists of ids, relations and methods. -/
def Offering.hook (o : Offering) (request : Request) : Operation → Except Refusal (Option Hook)
  | .list => return some .list
  | .fetch => do
    let id ← request.onlyId
    return some (.fetch id)
  | .create => do
    let entity ← Entity.ofBody o.schema request.body
    return some (.create entity)
  | .update => do
    let id ← request.onlyId
    let sent ← Entity.ofBody o.schema request.body
    let entity ← sent.under id
    return some (.update entity)
  | .delete => do
    let id ← request.onlyId
    return some (.delete id)
  | .fetchMany | .follow | .options => return none

/-- What the data source is asked unless the controller answers in its place. -/
def Offering.own (o : Offering) (request : Request) : (hook : Hook) → Engine hook.Replacement
  | .list => Engine.list o.typeName request
  | .fetch id => Engine.fetch o.typeName id request
  | .create entity => Api.createAndRead o request entity
  | .update entity => Engine.update o.typeName entity
  | .delete id => Engine.delete o.typeName id

/-- Where there is no controller, the data source is asked at once. -/
theorem Offering.answer_of_not_controlled (o : Offering) (request : Request) (controlled : o.controlled = false)
    (hook : Hook) (source : Engine hook.Replacement) : o.answer request hook source = source := by
  have free : ¬o.controlled = true := Bool.eq_false_iff.1 controlled
  unfold answer consult
  rw [if_neg free, pure_bind]
  rfl

namespace Api

variable (api : Api) (o : Offering) (shape : Shape) (request : Request)

/-- What is told of an answer, whoever gave it. -/
def tell : (hook : Hook) → hook.Replacement → Engine Outcome
  | .list, entities => do
    let report ← (api.viewpoint request).reportOfAll (entities.map (⟨o.schema, ·⟩))
    return .document .ok report.document none
  | .fetch _, entity => do
    let report ← (api.viewpoint request).reportOf ⟨o.schema, entity⟩
    return .document .ok report.document none
  | .create _, created => do
    let report ← (api.viewpoint request).reportOf ⟨o.schema, created⟩
    return .document .created report.document (some (api.elementPath o.typeName created.id))
  | .update _, _ | .delete _, _ => return .noContent none

/-- An operation in parts: what has to be accepted, and then, if a controller may decide, its decision, what the data
source does and what is told of it. -/
theorem performOn_eq (operation : Operation) :
    api.performOn o shape request operation = (do
      match ← Engine.accept (o.hook request operation) with
      | some hook =>
        let answer ← o.answer request hook (o.own request hook)
        api.tell o request hook answer
      | none => api.performOn o.bare shape request operation) := by
  cases operation with
  | list => rfl
  | fetch =>
    simp only [performOn, fetch, Offering.hook]
    cases request.onlyId <;> rfl
  | create =>
    simp only [performOn, create, Offering.hook]
    cases Entity.ofBody o.schema request.body <;> rfl
  | update =>
    simp only [performOn, update, Offering.hook]
    cases request.onlyId with
    | error => rfl
    | ok id =>
      cases Entity.ofBody o.schema request.body with
      | error => rfl
      | ok sent =>
        change _ = Engine.accept ((fun entity => some (Hook.update entity)) <$> sent.under id) >>= _
        simp only [Engine.accept_ok_bind]
        cases sent.under id <;> rfl
  | delete =>
    simp only [performOn, delete, Offering.hook]
    cases request.onlyId <;> rfl
  | fetchMany => rfl
  | follow => rfl
  | options => rfl

/-- Once all that an operation needs is accepted, the controller or the data source answers, and the answer is told. -/
theorem performOn_of_hook {operation : Operation} {hook : Hook} (h : o.hook request operation = .ok (some hook)) :
    api.performOn o shape request operation = o.answer request hook (o.own request hook) >>= api.tell o request hook := by
  rw [performOn_eq, h]
  rfl

/-- Without the controller, what the data source does comes next. -/
theorem performOn_bare_of_hook {operation : Operation} {hook : Hook} (h : o.hook request operation = .ok (some hook)) :
    api.performOn o.bare shape request operation = o.own request hook >>= api.tell o request hook := by
  have asked : o.bare.hook request operation = .ok (some hook) := h
  rw [api.performOn_of_hook o.bare shape request asked, o.bare.answer_of_not_controlled request rfl]
  rfl

/-- An operation that is refused, or that controllers do not decide on, is the same without the controller. -/
theorem performOn_bare_of_ne {operation : Operation} (h : ∀ hook, o.hook request operation ≠ .ok (some hook)) :
    api.performOn o.bare shape request operation = api.performOn o shape request operation := by
  have same : o.bare.hook request operation = o.hook request operation := rfl
  rw [performOn_eq, performOn_eq _ o, same]
  cases asked : o.hook request operation with
  | error reason => rfl
  | ok decision =>
    cases decision with
    | none => rfl
    | some hook => exact absurd asked (h hook)

/-- Without a controller, what the data source does comes first. -/
theorem performOn_of_not_controlled (controlled : o.controlled = false) {operation : Operation} {hook : Hook}
    (h : o.hook request operation = .ok (some hook)) :
    api.performOn o shape request operation = o.own request hook >>= api.tell o request hook := by
  rw [api.performOn_of_hook o shape request h, o.answer_of_not_controlled request controlled]

/-- Following a relation that the schema declares begins with asking the data source for the owner. -/
theorem follow_eq {id : String} {field : Field} (one : request.ids = [id]) (named : request.relation = some field.name)
    (declared : field ∈ o.schema.relations) :
    api.follow o request = (do
      let owner ← Engine.fetch o.typeName id request
      let related ← (api.viewpoint request).related ⟨o.schema, owner⟩ field
      let report ← (api.viewpoint request).reportOfRelatives related
      return .document .ok report.document none) := by
  have single : request.onlyId = .ok id := by
    unfold Request.onlyId Request.id?
    rw [one]
  have relation : o.relation (request.relation.getD "") = .ok field := by
    unfold Offering.relation
    rw [named, Option.getD_some, Schema.relation?_of_mem declared]
  unfold follow
  rw [single, relation]
  rfl

end Api

/-! ## Calls of the parts -/

/-- The calls of an operation on a resource: those to data sources, and those to the controller of the resource, if it has
one. -/
def Offering.Involves (o : Offering) (call : Call) : Prop :=
  call.consults = true → o.controlled = true ∧ call.type = o.typeName

/-- Every call to a data source may be involved. -/
theorem Call.involved_of_not_consults {call : Call} (h : call.consults = false) (o : Offering) : o.Involves call := by
  intro asks
  rw [h] at asks
  cases asks

/-- No controller is asked to look a relation up. -/
theorem Call.LooksUp.not_consults {headers : Headers} {call : Call} (h : call.LooksUp headers) :
    call.consults = false :=
  h.reads.not_consults

namespace Offering

variable (o : Offering) (request : Request)

/-- In doing what it is asked a data source does not come to the controller. -/
theorem within_own (hook : Hook) : (o.own request hook).run.Within fun call => call.consults = false := by
  cases hook with
  | list => exact Engine.within_call rfl
  | fetch id => exact Engine.within_call rfl
  | create entity => exact Engine.within_bind (Engine.within_call rfl) fun id => Engine.within_call rfl
  | update entity => exact Engine.within_call rfl
  | delete id => exact Engine.within_call rfl

/-- For an answer no controller is asked but that of the resource. -/
theorem within_answer (hook : Hook) :
    (o.answer request hook (o.own request hook)).run.Within o.Involves := by
  have consulted : (o.consult request hook).run.Within o.Involves := by
    unfold consult
    split
    · next controlled => exact Engine.within_call fun _ => ⟨controlled, rfl⟩
    · exact Plan.within_pure _
  refine Engine.within_bind consulted fun verdict => ?_
  cases verdict with
  | proceed => exact (o.within_own request hook).mono fun _ h => Call.involved_of_not_consults h o
  | replace answer => exact Plan.within_pure _

end Offering

namespace Api

variable (api : Api) (o : Offering) (shape : Shape) (request : Request)

/-- What is told of an answer is put together by looking up relations, and nothing else. -/
theorem within_tell (hook : Hook) (answer : hook.Replacement) :
    (api.tell o request hook answer).run.Within (Call.LooksUp request.headers) := by
  have shown (r : Record) : ((api.viewpoint request).reportOf r).Within (Call.LooksUp request.headers) :=
    (api.viewpoint request).within_reportOf r
  cases hook with
  | list =>
    refine Engine.within_bind (Engine.within_lift ?_) fun _ => Plan.within_pure _
    exact (api.viewpoint request).within_reportOfAll _
  | fetch id => exact Engine.within_bind (Engine.within_lift (shown _)) fun _ => Plan.within_pure _
  | create entity => exact Engine.within_bind (Engine.within_lift (shown _)) fun _ => Plan.within_pure _
  | update entity => exact Plan.within_pure _
  | delete id => exact Plan.within_pure _

/-- In an operation on a resource no controller is asked but that of the resource. -/
theorem within_performOn (operation : Operation) :
    (api.performOn o shape request operation).run.Within o.Involves := by
  have answered (hook : Hook) :
      (o.answer request hook (o.own request hook) >>= api.tell o request hook).run.Within o.Involves :=
    Engine.within_bind (o.within_answer request hook) fun answer =>
      (api.within_tell o request hook answer).mono fun _ h => Call.involved_of_not_consults h.not_consults o
  cases operation with
  | list => exact answered .list
  | fetch => exact Engine.within_bind (Engine.within_accept _) fun id => answered (.fetch id)
  | create => exact Engine.within_bind (Engine.within_accept _) fun entity => answered (.create entity)
  | update =>
    refine Engine.within_bind (Engine.within_accept _) fun id => ?_
    refine Engine.within_bind (Engine.within_accept _) fun sent => ?_
    exact Engine.within_bind (Engine.within_accept _) fun entity => answered (.update entity)
  | delete => exact Engine.within_bind (Engine.within_accept _) fun id => answered (.delete id)
  | fetchMany =>
    refine Engine.within_bind (Engine.within_call nofun) fun found => ?_
    refine Engine.within_bind (Engine.within_accept _) fun entities => ?_
    refine Engine.within_bind (Engine.within_lift ?_) fun _ => Plan.within_pure _
    exact (Viewpoint.within_reportOfAll _ _).mono fun _ h => Call.involved_of_not_consults h.not_consults o
  | follow =>
    refine Engine.within_bind (Engine.within_accept _) fun id => ?_
    refine Engine.within_bind (Engine.within_accept _) fun field => ?_
    refine Engine.within_bind (Engine.within_call nofun) fun entity => ?_
    have looked : ((api.viewpoint request).related ⟨o.schema, entity⟩ field).run.Within o.Involves :=
      (Viewpoint.within_related _ _ field).mono fun _ h => Call.involved_of_not_consults h.not_consults o
    refine Engine.within_bind looked fun related => ?_
    refine Engine.within_bind (Engine.within_lift ?_) fun _ => Plan.within_pure _
    exact (Viewpoint.within_reportOfRelatives _ _).mono fun _ h => Call.involved_of_not_consults h.not_consults o
  | options => exact Plan.within_pure _

end Api

end ResourceApi
