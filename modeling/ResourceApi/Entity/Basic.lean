import ResourceApi.Json.Basic

/-!
# Entities

An entity is an id with named values. The values of attributes stand under the names of the attributes, the ids of
related entities under the keys of their relations. Its type is not part of it.
-/

namespace ResourceApi

/-- An instance of a resource type. -/
structure Entity where
  /-- The id; empty until the entity is created. -/
  id : String
  fields : SortedMap Json

namespace Entity

/-- An entity without values. -/
def bare (id : String) : Entity where
  id := id
  fields := SortedMap.empty

instance : Inhabited Entity := ⟨bare ""⟩

/-- Set a value. -/
def set (e : Entity) (name : String) (value : Json) : Entity :=
  { e with fields := e.fields.insert name value }

/-- The value under a name. -/
def get? (e : Entity) (name : String) : Option Json :=
  e.fields.get? name

/-- The text under a name. -/
def text? (e : Entity) (name : String) : Option String :=
  (e.get? name).bind Json.str?

/-- The id of a related entity under a key; an empty text names none. -/
def reference? (e : Entity) (key : String) : Option String :=
  (e.text? key).filter fun id => !id.isEmpty

/-- Set all values of another entity. -/
def merge (e other : Entity) : Entity :=
  other.fields.entries.foldl (fun e field => e.set field.1 field.2) e

/-- Equality of id and values. -/
def same (a b : Entity) : Bool :=
  a.id == b.id && Json.sameMembers a.fields.entries b.fields.entries

end Entity

end ResourceApi
