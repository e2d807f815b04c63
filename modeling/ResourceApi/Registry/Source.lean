import ResourceApi.Plan.Call

/-!
# Data sources and controllers

A data source keeps the entities of one resource type; a controller decides on a request before the data source sees
it. Both work on a state, which is that of the whole server: each call takes a state and gives its reply with the
state after it.
-/

namespace ResourceApi

/-- Something done to a state: its result and the state after it. -/
abbrev Action (σ α : Type) : Type :=
  σ → Except Fault α × σ

/-- Leave the state as it is. -/
def Action.pure {σ α : Type} (value : α) : Action σ α :=
  fun s => (.ok value, s)

/-- End with a fault, and leave the state as it is. -/
def Action.fail {σ α : Type} (fault : Fault) : Action σ α :=
  fun s => (.error fault, s)

/-- The keeper of the entities of one type. What the query of a request means is up to it. -/
structure Source (σ : Type) where
  /-- Find the entities that match a request. -/
  list : Request → Action σ (List Entity)
  /-- Find the entity with an id. -/
  fetch : String → Request → Action σ Entity
  /-- Find the entities with the given ids; unknown ids may be left out. -/
  fetchMany : List String → Request → Action σ (List Entity)
  /-- Store a new entity and give its id. -/
  create : Entity → Action σ String
  /-- Store changes to an entity. -/
  update : Entity → Action σ Unit
  /-- Remove the entity with an id. -/
  delete : String → Action σ Unit

/-- Do something to a part of a state. -/
def Action.within {σ τ α : Type} (part : τ → σ) (replace : σ → τ → τ) (action : Action σ α) : Action τ α :=
  fun t =>
    let (reply, s) := action (part t)
    (reply, replace s t)

/-- A data source whose state is a part of a larger one. -/
def Source.within {σ τ : Type} (part : τ → σ) (replace : σ → τ → τ) (source : Source σ) : Source τ where
  list request := (source.list request).within part replace
  fetch id request := (source.fetch id request).within part replace
  fetchMany ids request := (source.fetchMany ids request).within part replace
  create entity := (source.create entity).within part replace
  update entity := (source.update entity).within part replace
  delete id := (source.delete id).within part replace

/-- A decision on each operation of a resource type. Unless it is given, the decision is to go on. -/
structure Controller (σ : Type) where
  list : Request → Action σ (Verdict (List Entity)) := fun _ => .pure .proceed
  fetch : Request → String → Action σ (Verdict Entity) := fun _ _ => .pure .proceed
  create : Request → Entity → Action σ (Verdict Entity) := fun _ _ => .pure .proceed
  update : Request → Entity → Action σ (Verdict Unit) := fun _ _ => .pure .proceed
  delete : Request → String → Action σ (Verdict Unit) := fun _ _ => .pure .proceed

/-- Ask a controller. -/
def Controller.consult {σ : Type} (c : Controller σ) (request : Request) :
    (hook : Hook) → Action σ (Verdict hook.Replacement)
  | .list => c.list request
  | .fetch id => c.fetch request id
  | .create entity => c.create request entity
  | .update entity => c.update request entity
  | .delete id => c.delete request id

end ResourceApi
