import ResourceApi.Proofs.Registry.Controllers
import ResourceApi.Proofs.Registry.Table

/-!
# Where relations lead

The route of a relation to one asks for the entity that the key refers to, and if that fails looks for it among the
entities that name the owner; without a reference it takes the only entity that names the owner. The route of a relation
to many leads to all of these. `Resource.LeadsTo` is the table of what comes of it, by what the data source of the target
answers: the value, each call with its reply, and the state. Every run of a relation is in the table
(`related_leadsTo`), so no relation to one leads to an entity of another id than the one that the data source was asked
for.
-/

namespace ResourceApi

variable {σ : Type}

namespace Resource

variable (target : Resource σ) (owner : Record) (headers : Headers)

/-- A resource was asked for the entity that a record refers to by an id. -/
def fetched (id : String) (reply : Except Fault Entity) : Exchange :=
  ⟨.fetch target.schema.typeName id (Record.referenceRequest target.schema headers), reply⟩

/-- A resource was asked for the entities that name a record. -/
def listed (reply : Except Fault (List Entity)) : Exchange :=
  ⟨.list target.schema.typeName (owner.ownedRequest target.schema headers), reply⟩

/-- What comes of a relation of a record to a resource, by the kind of the relation and by what the data source of the
resource answers. -/
inductive LeadsTo (s : σ) : Field.Kind → Run σ (Except Fault Relatives) → Prop
  /-- What is found under the id that the key holds is related, and nothing else is asked. -/
  | direct {type key id : String} {entity : Entity} {t : σ} (reference : owner.entity.reference? key = some id)
    (found : target.source.fetch id (Record.referenceRequest target.schema headers) s = (.ok entity, t)) :
    LeadsTo s (.toOne type key)
      ⟨.ok (.one (some ⟨target.schema, entity⟩)), [target.fetched headers id (.ok entity)], t⟩
  /-- If nothing is found under the id, the first entity of the id among those that name the record is related. -/
  | among {type key id : String} {fault : Fault} {before after : List Entity} {entity : Entity} {t u : σ}
    (reference : owner.entity.reference? key = some id)
    (missed : target.source.fetch id (Record.referenceRequest target.schema headers) s = (.error fault, t))
    (found : target.source.list (owner.ownedRequest target.schema headers) t = (.ok (before ++ entity :: after), u))
    (own : entity.id = id) (first : ∀ e ∈ before, e.id ≠ id) :
    LeadsTo s (.toOne type key)
      ⟨.ok (.one (some ⟨target.schema, entity⟩)),
        [target.fetched headers id (.error fault), target.listed owner headers (.ok (before ++ entity :: after))], u⟩
  /-- If none of them has the id, none is related. -/
  | nowhere {type key id : String} {fault : Fault} {entities : List Entity} {t u : σ}
    (reference : owner.entity.reference? key = some id)
    (missed : target.source.fetch id (Record.referenceRequest target.schema headers) s = (.error fault, t))
    (found : target.source.list (owner.ownedRequest target.schema headers) t = (.ok entities, u))
    (others : ∀ e ∈ entities, e.id ≠ id) :
    LeadsTo s (.toOne type key)
      ⟨.ok (.one none), [target.fetched headers id (.error fault), target.listed owner headers (.ok entities)], u⟩
  /-- If both ways fail, the fault of the first counts. -/
  | missing {type key id : String} {fault other : Fault} {t u : σ} (reference : owner.entity.reference? key = some id)
    (missed : target.source.fetch id (Record.referenceRequest target.schema headers) s = (.error fault, t))
    (failed : target.source.list (owner.ownedRequest target.schema headers) t = (.error other, u)) :
    LeadsTo s (.toOne type key)
      ⟨.error fault, [target.fetched headers id (.error fault), target.listed owner headers (.error other)], u⟩
  /-- If the key holds no id, the only entity that names the record is related. -/
  | only {type key : String} {entity : Entity} {t : σ} (unset : owner.entity.reference? key = none)
    (found : target.source.list (owner.ownedRequest target.schema headers) s = (.ok [entity], t)) :
    LeadsTo s (.toOne type key)
      ⟨.ok (.one (some ⟨target.schema, entity⟩)), [target.listed owner headers (.ok [entity])], t⟩
  /-- If none names it, or several do, none is related. -/
  | unclear {type key : String} {entities : List Entity} {t : σ} (unset : owner.entity.reference? key = none)
    (found : target.source.list (owner.ownedRequest target.schema headers) s = (.ok entities, t))
    (count : entities.length ≠ 1) :
    LeadsTo s (.toOne type key) ⟨.ok (.one none), [target.listed owner headers (.ok entities)], t⟩
  /-- If that is not told, this fault counts. -/
  | untold {type key : String} {fault : Fault} {t : σ} (unset : owner.entity.reference? key = none)
    (failed : target.source.list (owner.ownedRequest target.schema headers) s = (.error fault, t)) :
    LeadsTo s (.toOne type key) ⟨.error fault, [target.listed owner headers (.error fault)], t⟩
  /-- A relation to many leads to the entities that name the record, in the order in which they are found. -/
  | all {type : String} {entities : List Entity} {t : σ}
    (found : target.source.list (owner.ownedRequest target.schema headers) s = (.ok entities, t)) :
    LeadsTo s (.toMany type)
      ⟨.ok (.many (entities.map (⟨target.schema, ·⟩))), [target.listed owner headers (.ok entities)], t⟩
  /-- If they are not found, the fault is the answer. -/
  | unfound {type : String} {fault : Fault} {t : σ}
    (failed : target.source.list (owner.ownedRequest target.schema headers) s = (.error fault, t)) :
    LeadsTo s (.toMany type) ⟨.error fault, [target.listed owner headers (.error fault)], t⟩

/-! ## Runs -/

section Runs

variable {target owner headers} {registry : Registry σ} (served : target ∈ registry.resources) {s t u : σ}

include served

/-- A call that is addressed to the target runs as the target answers it. -/
theorem run_call (call : Call) (addressed : call.type = target.typeName) :
    (Engine.call call).run.run registry.backend s =
      ⟨(target.answer call s).1, [⟨call, (target.answer call s).1⟩], (target.answer call s).2⟩ := by
  have answered : registry.backend call = target.answer call :=
    Registry.backend_of_some call (addressed ▸ Registry.lookup?_of_mem served)
  rw [← answered]
  rfl

/-- Asking for what is found under an id runs as the data source fetches it. -/
theorem run_fetched {id : String} {reply : Except Fault Entity}
    (h : target.source.fetch id (Record.referenceRequest target.schema headers) s = (reply, t)) :
    (Engine.fetch target.schema.typeName id (Record.referenceRequest target.schema headers)).run.run registry.backend s =
      ⟨reply, [target.fetched headers id reply], t⟩ := by
  have answered : target.answer (.fetch target.schema.typeName id (Record.referenceRequest target.schema headers)) s =
      (reply, t) := h
  have ran := run_call (s := s) served (.fetch target.schema.typeName id (Record.referenceRequest target.schema headers)) rfl
  rw [answered] at ran
  exact ran

/-- Asking for the entities that name a record runs as the data source lists them. -/
theorem run_owned {reply : Except Fault (List Entity)}
    (h : target.source.list (owner.ownedRequest target.schema headers) s = (reply, t)) :
    (owner.owned target.schema headers).run.run registry.backend s = ⟨reply, [target.listed owner headers reply], t⟩ := by
  have answered : target.answer (.list target.schema.typeName (owner.ownedRequest target.schema headers)) s =
      (reply, t) := h
  have ran := run_call (s := s) served (.list target.schema.typeName (owner.ownedRequest target.schema headers)) rfl
  rw [answered] at ran
  exact ran

/-- If something is found under the id, nothing else is asked for. -/
theorem run_referenced_of_found {id : String} {entity : Entity}
    (h : target.source.fetch id (Record.referenceRequest target.schema headers) s = (.ok entity, t)) :
    (owner.referenced target.schema headers id).run.run registry.backend s =
      ⟨.ok (some entity), [target.fetched headers id (.ok entity)], t⟩ := by
  refine (Plan.run_bind_of (run_fetched served h) _).trans ?_
  rfl

/-- If nothing is found under the id, the entities that name the record are asked for. -/
theorem run_referenced_of_missed {id : String} {fault : Fault} {reply : Except Fault (List Entity)}
    (h : target.source.fetch id (Record.referenceRequest target.schema headers) s = (.error fault, t))
    (h' : target.source.list (owner.ownedRequest target.schema headers) t = (reply, u)) :
    (owner.referenced target.schema headers id).run.run registry.backend s =
      ⟨match reply with
        | .ok entities => .ok (entities.find? fun e => e.id == id)
        | .error _ => .error fault,
        [target.fetched headers id (.error fault), target.listed owner headers reply], u⟩ := by
  refine (Plan.run_bind_of (run_fetched served h) _).trans ?_
  simp only [Plan.run_bind_of (run_owned served h') _]
  cases reply <;> rfl

/-- A relation to one leads to its partner by the table. -/
theorem leadsTo_toOne (v : Viewpoint) (type key : String) :
    target.LeadsTo owner v.headers s (.toOne type key)
      ((v.relatedIn owner target.schema (some key)).run.run registry.backend s) := by
  have related {result : Run σ (Except Fault (Option Entity))}
      (h : (owner.partner target.schema v.headers key).run.run registry.backend s = result) :
      (v.relatedIn owner target.schema (some key)).run.run registry.backend s =
        ⟨result.value.map fun entity => .one (entity.map (⟨target.schema, ·⟩)), result.exchanges, result.state⟩ :=
    Engine.run_bind_pure h _
  unfold Record.partner at related
  cases reference : owner.entity.reference? key with
  | some id =>
    rw [reference] at related
    rcases sought : target.source.fetch id (Record.referenceRequest target.schema v.headers) s with ⟨reply, t⟩
    cases reply with
    | ok entity =>
      rw [related (run_referenced_of_found served sought)]
      exact .direct reference sought
    | error fault =>
      rcases named : target.source.list (owner.ownedRequest target.schema v.headers) t with ⟨reply, u⟩
      rw [related (run_referenced_of_missed served sought named)]
      cases reply with
      | error other => exact .missing reference sought named
      | ok entities =>
        cases search : entities.find? fun e => e.id == id with
        | some entity =>
          obtain ⟨own, before, after, rfl, others⟩ := List.find?_eq_some_iff_append.1 search
          simp only [search]
          refine .among reference sought named (eq_of_beq own) fun e he => ?_
          simpa using others e he
        | none =>
          simp only [search]
          refine .nowhere reference sought named fun e he => ?_
          simpa using List.find?_eq_none.1 search e he
  | none =>
    rw [reference] at related
    rcases named : target.source.list (owner.ownedRequest target.schema v.headers) s with ⟨reply, t⟩
    rw [related (Engine.run_bind_pure (run_owned served named) _)]
    cases reply with
    | error fault => exact .untold reference named
    | ok entities =>
      match entities with
      | [] => exact .unclear reference named (by simp)
      | [entity] => exact .only reference named
      | entity :: other :: rest => exact .unclear reference named (by simp)

/-- A relation to many leads to the entities that name its owner by the table. -/
theorem leadsTo_toMany (v : Viewpoint) (type : String) :
    target.LeadsTo owner v.headers s (.toMany type)
      ((v.relatedIn owner target.schema none).run.run registry.backend s) := by
  rcases named : target.source.list (owner.ownedRequest target.schema v.headers) s with ⟨reply, t⟩
  have related : (v.relatedIn owner target.schema none).run.run registry.backend s = _ :=
    Engine.run_bind_pure (run_owned served named) _
  rw [related]
  cases reply with
  | error fault => exact .unfound named
  | ok entities => exact .all named

end Runs

end Resource

/-- Following a relation of a record comes to what the table says of its target, by what the data source of the target
answers. If the target is not served, it is reported missing and nobody is asked. What is no relation is refused in the
same way. -/
theorem related_leadsTo (registry : Registry σ) (base : String) (request : Request) (owner : Record) (field : Field) (s : σ) :
    let run := ((registry.viewpoint base request).related owner field).run.run registry.backend s
    (∀ type, field.target? = some type →
      (registry.lookup? type = none →
        run = ⟨.error (Refusal.unknownType type).fault, [], s⟩ ∧ (Refusal.unknownType type).fault.kind = .notFound) ∧
      ∀ target, registry.lookup? type = some target → target.LeadsTo owner request.headers s field.kind run) ∧
    (field.target? = none →
      run = ⟨.error (Refusal.notARelation field.name).fault, [], s⟩ ∧
        (Refusal.notARelation field.name).fault.kind = .notFound) := by
  intro run
  let v := registry.viewpoint base request
  refine ⟨fun type leads => ⟨fun unserved => ?_, fun target served => ?_⟩, fun plain => ?_⟩
  · have unknown : v.related owner field = Engine.refuse (.unknownType type) := by
      have schema : v.catalogue.schema? type = none :=
        (registry.schema?_catalogue type).trans (congrArg (Option.map Resource.schema) unserved)
      simp only [Viewpoint.related, leads, schema]
    exact ⟨congrArg (fun p : Engine Relatives => p.run.run registry.backend s) unknown, rfl⟩
  · have known : v.related owner field = v.relatedIn owner target.schema field.key? := by
      have schema : v.catalogue.schema? type = some target.schema := registry.schema?_of_lookup? served
      simp only [Viewpoint.related, leads, schema]
    have ran : run = (v.relatedIn owner target.schema field.key?).run.run registry.backend s :=
      congrArg (fun p : Engine Relatives => p.run.run registry.backend s) known
    have member := Registry.mem_of_lookup? served
    rw [ran]
    obtain ⟨name, kind⟩ := field
    cases kind with
    | scalar => cases leads
    | nullable => cases leads
    | toOne type key => exact Resource.leadsTo_toOne member v type key
    | toMany type => exact Resource.leadsTo_toMany member v type
  · have refused : v.related owner field = Engine.refuse (.notARelation field.name) := by
      simp only [Viewpoint.related, plain]
    exact ⟨congrArg (fun p : Engine Relatives => p.run.run registry.backend s) refused, rfl⟩

namespace Blog

/-- Posts with one of their comments at the top. -/
def pinned : Schema where
  typeName := "posts"
  fields := [⟨"pinned", .toOne "comments" "pinnedID"⟩]

/-- Comments that can be listed but not found by their ids. -/
def listing : Resource Unit where
  schema := comments
  source := { (Source.ofTable [comment "4" "1", comment "5" "1"] : Source Unit) with
    fetch := fun _ _ => .fail (.internal "no index") }

/-- Posts with one of their comments at the top, and comments that can only be listed. -/
def listed : Registry Unit where
  resources := [{ schema := pinned, source := .ofTable [] }, listing]
  distinct := (by decide : ["posts", "comments"].Nodup)

/-- A post with the second of its comments at the top. -/
def pinnedPost : Record := ⟨pinned, (Entity.bare "1").set "pinnedID" (.str "5")⟩

end Blog

/-- The comment at the top of a post is found although comments cannot be found by their ids: of the two comments that name
the post it is the one with the id that the post holds. -/
theorem pinned_comment_found :
    let field : Field := ⟨"pinned", .toOne "comments" "pinnedID"⟩
    let run := ((Blog.listed.viewpoint "/v1" Blog.request).related Blog.pinnedPost field).run.run Blog.listed.backend ()
    Blog.listed.lookup? "comments" = some Blog.listing ∧
      Blog.listing.LeadsTo Blog.pinnedPost Blog.request.headers () field.kind run ∧
      run.value = .ok (.one (some ⟨Blog.comments, Blog.comment "5" "1"⟩)) ∧
      run.exchanges = [
        Blog.listing.fetched Blog.request.headers "5" (.error (.internal "no index")),
        Blog.listing.listed Blog.pinnedPost Blog.request.headers (.ok [Blog.comment "4" "1", Blog.comment "5" "1"])] := by
  intro field run
  have served : Blog.listed.lookup? "comments" = some Blog.listing := rfl
  have table := (related_leadsTo Blog.listed "/v1" Blog.request Blog.pinnedPost field ()).1 "comments" rfl
  exact ⟨served, table.2 Blog.listing served, rfl, rfl⟩

end ResourceApi
