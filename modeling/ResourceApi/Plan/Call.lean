import ResourceApi.Entity.Basic
import ResourceApi.Fault.Basic
import ResourceApi.Request

/-!
# Calls

All that the engine does to the world is to call data sources and controllers. A call says which type it goes to and
what is asked; `Call.Result` is the type of the answer to each. So the engine itself is a pure function, and what it
asked, in which order, can be looked at.
-/

namespace ResourceApi

/-- What a controller is asked before its resource is touched. -/
inductive Hook where
  | list
  | fetch (id : String)
  /-- The entity is the one that the client sent. -/
  | create (entity : Entity)
  /-- The entity is the one that the client sent, under the id of the path. -/
  | update (entity : Entity)
  | delete (id : String)

/-- What a controller may put in the place of the answer of the data source. A replacement for a created entity has to
carry its id. -/
@[reducible] def Hook.Replacement : Hook → Type
  | list => List Entity
  | fetch _ => Entity
  | create _ => Entity
  | update _ => Unit
  | delete _ => Unit

/-- What a controller decides. -/
inductive Verdict (α : Type) where
  /-- Go on to the data source. -/
  | proceed
  /-- Leave the data source out; this is the answer. -/
  | replace (answer : α)

/-- A call to the data source or the controller of a resource type. -/
inductive Call where
  /-- Find the entities that match a request. -/
  | list (type : String) (request : Request)
  /-- Find the entity with an id. -/
  | fetch (type id : String) (request : Request)
  /-- Find the entities with the given ids; unknown ids may be left out. -/
  | fetchMany (type : String) (ids : List String) (request : Request)
  /-- Store a new entity. -/
  | create (type : String) (entity : Entity)
  /-- Store changes to an entity. -/
  | update (type : String) (entity : Entity)
  /-- Remove the entity with an id. -/
  | delete (type id : String)
  /-- Ask the controller. -/
  | consult (type : String) (request : Request) (hook : Hook)

namespace Call

/-- The type of the answer to a call that succeeds. Storing a new entity answers with its id. -/
@[reducible] def Result : Call → Type
  | list _ _ => List Entity
  | fetch _ _ _ => Entity
  | fetchMany _ _ _ => List Entity
  | create _ _ => String
  | update _ _ => Unit
  | delete _ _ => Unit
  | consult _ _ hook => Verdict hook.Replacement

/-- What a call gives: its answer or a fault. -/
abbrev Reply (c : Call) : Type :=
  Except Fault c.Result

/-- The resource type that a call goes to. -/
def type : Call → String
  | list type _ => type
  | fetch type _ _ => type
  | fetchMany type _ _ => type
  | create type _ => type
  | update type _ => type
  | delete type _ => type
  | consult type _ _ => type

end Call

end ResourceApi
