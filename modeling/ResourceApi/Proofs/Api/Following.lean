import ResourceApi.Proofs.Api.Writes
import ResourceApi.Proofs.Plan.Parallel
import ResourceApi.Proofs.Registry.Table

/-!
# Two ways to a related entity

What a relation leads to may be asked for by the path of the relation, or by the path of what it leads to. Where the target
has no controller, both come to the same (`relation_route_agrees`): a relation to one to the entity under the id that the
owner refers to, and a relation to many to the collection, narrowed to the owner.
-/

namespace ResourceApi

variable {σ : Type}

/-- Of a request for one id the controller is asked about this id. -/
theorem Offering.hook_fetch (o : Offering) {request : Request} {id : String} (one : request.ids = [id]) :
    o.hook request .fetch = .ok (some (.fetch id)) := by
  unfold hook
  rw [Request.onlyId_eq_ok_iff.2 one]
  rfl

namespace Api

variable (api : Api) (o : Offering) (shape : Shape) (request : Request) (replies : Replies)

/-- The document of a report. -/
theorem comesTo_document (p : Plan Report) :
    (do
      let report ← liftM p
      return Outcome.document .ok report.document none : Engine Outcome).run.comesTo replies =
      .ok (.document .ok (p.comesTo replies).document none) := by
  rw [Engine.run_lift_bind, Plan.comesTo_bind]
  rfl

section Following

variable {id : String} {field : Field} (one : request.ids = [id]) (named : request.relation = some field.name)
  (declared : field ∈ o.schema.relations) {owner : Entity} (found : replies (.fetch o.typeName id request) = .ok owner)

include one named declared found

/-- Following a relation comes to the document of what the relation leads to. -/
theorem comesTo_follow :
    (api.follow o request).run.comesTo replies =
      (((api.viewpoint request).related ⟨o.schema, owner⟩ field).run.comesTo replies).map fun relatives =>
        .document .ok (((api.viewpoint request).reportOfRelatives relatives).comesTo replies).document none := by
  have asked : (Engine.fetch o.typeName id request).run.comesTo replies = .ok owner := found
  rw [api.follow_eq o request one named declared, Engine.comesTo_run_bind, asked]
  change ((api.viewpoint request).related ⟨o.schema, owner⟩ field >>= _ : Engine Outcome).run.comesTo replies = _
  rw [Engine.comesTo_run_bind]
  cases ((api.viewpoint request).related ⟨o.schema, owner⟩ field).run.comesTo replies with
  | error fault => rfl
  | ok relatives => exact comesTo_document replies _

/-- A reference that is found is followed to the document of the entity that it refers to. -/
theorem comesTo_follow_toOne {target : Schema} (served : api.catalogue.schema? target.typeName = some target)
    {key reference : String} (kind : field.kind = .toOne target.typeName key)
    (refers : owner.reference? key = some reference) {entity : Entity}
    (referenced : replies (.fetch target.typeName reference (Record.referenceRequest target request.headers)) =
      .ok entity) :
    (api.follow o request).run.comesTo replies =
      .ok (.document .ok (((api.viewpoint request).reportOf ⟨target, entity⟩).comesTo replies).document none) := by
  have partner : ((⟨o.schema, owner⟩ : Record).partner target request.headers key).run.comesTo replies =
      .ok (some entity) := by
    unfold Record.partner
    rw [refers]
    simp only [Record.comesTo_referenced, referenced]
  have schema : (api.viewpoint request).catalogue.schema? target.typeName = some target := served
  rw [api.comesTo_follow o request replies one named declared found]
  obtain ⟨name, _⟩ := field
  cases kind
  rw [Viewpoint.comesTo_related_toOne, schema]
  change Except.map _ (Except.map _ (((⟨o.schema, owner⟩ : Record).partner target request.headers key).run.comesTo
    replies)) = _
  rw [partner]
  rfl

/-- A relation to many is followed to the document of the entities that name the owner. -/
theorem comesTo_follow_toMany {target : Schema} (served : api.catalogue.schema? target.typeName = some target)
    (kind : field.kind = .toMany target.typeName) :
    (api.follow o request).run.comesTo replies =
      (replies (.list target.typeName ((⟨o.schema, owner⟩ : Record).ownedRequest target request.headers))).map
        fun entities =>
          .document .ok (((api.viewpoint request).reportOfAll (entities.map (⟨target, ·⟩))).comesTo replies).document
            none := by
  have schema : (api.viewpoint request).catalogue.schema? target.typeName = some target := served
  rw [api.comesTo_follow o request replies one named declared found]
  obtain ⟨name, _⟩ := field
  cases kind
  rw [Viewpoint.comesTo_related_toMany, schema]
  change Except.map _ (Except.map _ (replies (.list target.typeName
    ((⟨o.schema, owner⟩ : Record).ownedRequest target request.headers)))) = _
  cases replies (.list target.typeName ((⟨o.schema, owner⟩ : Record).ownedRequest target request.headers)) <;> rfl

end Following

section NoController

variable (controlled : o.controlled = false)

include controlled

/-- Reading an entity comes to the document of the entity that is found. -/
theorem comesTo_fetch {id : String} (one : request.ids = [id]) {entity : Entity}
    (found : replies (.fetch o.typeName id request) = .ok entity) :
    (api.performOn o shape request .fetch).run.comesTo replies =
      .ok (.document .ok (((api.viewpoint request).reportOf ⟨o.schema, entity⟩).comesTo replies).document none) := by
  have asked : (o.own request (.fetch id)).run.comesTo replies = .ok entity := found
  rw [api.performOn_of_not_controlled o shape request controlled (o.hook_fetch one), Engine.comesTo_run_bind, asked]
  exact comesTo_document replies _

/-- Reading a collection comes to the document of the entities that are listed. -/
theorem comesTo_list :
    (api.performOn o shape request .list).run.comesTo replies =
      (replies (.list o.typeName request)).map fun entities =>
        .document .ok (((api.viewpoint request).reportOfAll (entities.map (⟨o.schema, ·⟩))).comesTo replies).document
          none := by
  have asked : (o.own request .list).run.comesTo replies = replies (.list o.typeName request) := rfl
  rw [api.performOn_of_not_controlled o shape request controlled rfl, Engine.comesTo_run_bind, asked]
  cases replies (.list o.typeName request) with
  | error fault => rfl
  | ok entities => exact comesTo_document replies _

/-- An operation whose data source only reads reads and does nothing else. -/
theorem reads_of_not_controlled {operation : Operation} {hook : Hook} (h : o.hook request operation = .ok (some hook))
    (reads : (o.own request hook).run.Within Call.Reads) :
    (api.performOn o shape request operation).run.Within Call.Reads := by
  rw [api.performOn_of_not_controlled o shape request controlled h]
  exact Engine.within_bind reads fun answer => (api.within_tell o request hook answer).mono fun _ looks => looks.reads

end NoController

end Api

/-- A request that only reads comes to one value against a steady registry. -/
theorem Registry.Steady.value_perform {registry : Registry σ} (steady : registry.Steady) (mount : Mount)
    (shape : Shape) (request : Request) {r : Resource σ} (served : registry.lookup? request.resource = some r) {operation : Operation}
    (picked : Operation.of shape request.method request.ids.length = .ok operation)
    (reads : ((registry.api mount).performOn r.offering shape request operation).run.Within Call.Reads) (t s : σ) :
    (((registry.api mount).perform shape request).run.run registry.backend t).value =
      ((registry.api mount).performOn r.offering shape request operation).run.comesTo (registry.backend.repliesAt s) := by
  rw [registry.perform_of_served mount shape request served picked]
  exact steady.run_value reads t s

/-- The path of a relation and the path of what it leads to come to the same, whatever else there is in the requests, as
long as their header fields are the same. A relation to one comes to the document of the entity under the id that the owner
refers to, if its data source has one and looks at nothing but the id. A relation to many comes to what the collection
comes to when it is narrowed to the owner, be it a document or a fault. -/
theorem relation_route_agrees {registry : Registry σ} (steady : registry.Steady) (mount : Mount) {r target : Resource σ}
    (registered : r ∈ registry.resources) (served : target ∈ registry.resources) (free : target.controller = none)
    {field : Field} (declared : field ∈ r.schema.relations) (id : String) (query : Query) (headers : Headers)
    (body : Bytes) {owner : Entity} (s : σ)
    (found : (r.source.fetch id ⟨.get, r.typeName, [id], some field.name, query, headers, body⟩ s).1 = .ok owner)
    (t t' : σ) :
    let outcome (shape : Shape) (request : Request) (s : σ) :=
      (((registry.api mount).perform shape request).run.run registry.backend s).value
    let followed := outcome .relation ⟨.get, r.typeName, [id], some field.name, query, headers, body⟩ t
    (∀ key reference entity, field.kind = .toOne target.typeName key → owner.reference? key = some reference →
        (∀ request, (target.source.fetch reference request s).1 = .ok entity) →
        ∀ query' body', ∃ document, followed = .ok (.document .ok document none) ∧
          outcome .element ⟨.get, target.typeName, [reference], none, query', headers, body'⟩ t' =
            .ok (.document .ok document none)) ∧
      (field.kind = .toMany target.typeName →
        followed = outcome .collection
          ⟨.get, target.typeName, [], none, Query.empty.insert (r.typeName ++ "ID") [owner.id], headers, []⟩ t') := by
  intro outcome followed
  let api := registry.api mount
  let replies := registry.backend.repliesAt s
  let request : Request := ⟨.get, r.typeName, [id], some field.name, query, headers, body⟩
  have ownerServed : registry.lookup? r.typeName = some r := Registry.lookup?_of_mem registered
  have targetServed : registry.lookup? target.typeName = some target := Registry.lookup?_of_mem served
  have schema : api.catalogue.schema? target.typeName = some target.schema := registry.schema?_of_mem served
  have controlled : target.offering.controlled = false := congrArg Option.isSome free
  have owned : replies (.fetch r.typeName id request) = .ok owner :=
    (Registry.repliesAt_of_some (.fetch r.typeName id request) ownerServed s).trans found
  have followed : followed = (api.follow r.offering request).run.comesTo replies :=
    steady.value_perform mount .relation request ownerServed rfl
      (api.reads_of_no_hook r.offering .relation request rfl) t s
  constructor
  · intro key reference entity kind refers only query' body'
    let direct : Request := ⟨.get, target.typeName, [reference], none, query', headers, body'⟩
    have answered (request : Request) : replies (.fetch target.typeName reference request) = .ok entity :=
      (Registry.repliesAt_of_some (.fetch target.typeName reference request) targetServed s).trans (only request)
    have reads : (api.performOn target.offering .element direct .fetch).run.Within Call.Reads :=
      api.reads_of_not_controlled target.offering .element direct controlled (target.offering.hook_fetch rfl)
        (Engine.within_call trivial)
    refine ⟨_, followed.trans ?_, (steady.value_perform mount .element direct targetServed rfl reads t' s).trans
      (api.comesTo_fetch target.offering .element direct replies controlled rfl (answered direct))⟩
    exact api.comesTo_follow_toOne r.offering request replies rfl rfl declared owned schema kind refers (answered _)
  · intro kind
    -- What the relation asks for is the collection, narrowed to the owner.
    let direct : Request := (⟨r.schema, owner⟩ : Record).ownedRequest target.schema headers
    have reads : (api.performOn target.offering .collection direct .list).run.Within Call.Reads :=
      api.reads_of_not_controlled target.offering .collection direct controlled rfl (Engine.within_call trivial)
    have listed := (steady.value_perform mount .collection direct targetServed rfl reads t' s).trans
      (api.comesTo_list target.offering .collection direct replies controlled)
    exact (followed.trans
      (api.comesTo_follow_toMany r.offering request replies rfl rfl declared owned schema kind)).trans listed.symm

/-- The author of a post may be asked for by the path of the user, and the comments by the collection of comments. -/
theorem blog_relation_routes_agree :
    let outcome (shape : Shape) (request : Request) :=
      (((Blog.registry.api ⟨["v1"]⟩).perform shape request).run.run Blog.registry.backend ()).value
    Blog.registry.Steady ∧
      (∃ document,
        outcome .relation ⟨.get, "posts", ["1"], some "author", .empty, .empty, []⟩ = .ok (.document .ok document none) ∧
          outcome .element ⟨.get, "users", ["7"], none, .empty, .empty, []⟩ = .ok (.document .ok document none)) ∧
      outcome .relation ⟨.get, "posts", ["1"], some "comments", .empty, .empty, []⟩ =
        outcome .collection ⟨.get, "comments", [], none, Query.empty.insert "postsID" ["1"], .empty, []⟩ := by
  have steady : Blog.registry.Steady := (Blog.isTables none).steady
  have posts : _ ∈ Blog.registry.resources := List.mem_cons_self
  have users : _ ∈ Blog.registry.resources := List.mem_cons_of_mem _ List.mem_cons_self
  have comments : _ ∈ Blog.registry.resources := List.mem_cons_of_mem _ (List.mem_cons_of_mem _ List.mem_cons_self)
  have author : ⟨"author", .toOne "users" "authorID"⟩ ∈ Blog.posts.relations := by decide
  have commented : ⟨"comments", .toMany "comments"⟩ ∈ Blog.posts.relations := by decide
  have one := (relation_route_agrees steady ⟨["v1"]⟩ posts users rfl author "1" .empty .empty [] ()
    (rfl : _ = Except.ok (Blog.post "1" "7")) () ()).1
  have many := (relation_route_agrees steady ⟨["v1"]⟩ posts comments rfl commented "1" .empty .empty [] ()
    (rfl : _ = Except.ok (Blog.post "1" "7")) () ()).2
  refine ⟨steady, ?_, many rfl⟩
  exact one "authorID" "7" (Blog.user "7" "8") rfl (by decide +kernel) (fun request => rfl) .empty []

end ResourceApi
