import ResourceApi.Fault.Refusal

/-!
# Shapes and operations

A route leads to a collection, to one or more elements of it, or to a relation of one element. The method of the
request then picks the operation. `Shape.methods` is what a shape advertises; `Operation.of` is what it does.
-/

namespace ResourceApi

/-- What a route leads to. -/
inductive Shape where
  | collection
  | element
  | relation
  deriving DecidableEq, Repr

namespace Shape

/-- The name of a shape. -/
def name : Shape → String
  | collection => "Collection"
  | element => "Element"
  | relation => "Relation"

/-- The methods that a shape advertises. -/
def methods : Shape → List Method
  | collection => [.get, .post, .options]
  | element => [.get, .put, .delete, .options]
  | relation => [.get, .options]

/-- The methods that a shape advertises, as one header value. -/
def allow (shape : Shape) : String :=
  Text.join "," (shape.methods.map Method.name)

end Shape

/-- What is to be done. -/
inductive Operation where
  /-- Read all entities of a type. -/
  | list
  /-- Read one entity. -/
  | fetch
  /-- Read the entities of a list of ids. -/
  | fetchMany
  /-- Read the entities of a relation. -/
  | follow
  /-- Create an entity. -/
  | create
  /-- Change an entity. -/
  | update
  /-- Remove an entity. -/
  | delete
  /-- Say which methods apply. -/
  | options
  deriving DecidableEq, Repr

namespace Operation

/-- The name of an operation. -/
def name : Operation → String
  | list => "FindAll"
  | fetch => "FindOne"
  | fetchMany => "FindMultiple"
  | follow => "FindRelated"
  | create => "Create"
  | update => "Update"
  | delete => "Delete"
  | options => "Options"

/-- The operation of a method on a collection. -/
def ofCollection (method : Method) : Except Refusal Operation :=
  if method = .get then .ok list
  else if method = .post then .ok create
  else .error (.methodNotAllowed method)

/-- The operation of a method on one element. -/
def ofElement (method : Method) : Except Refusal Operation :=
  if method = .get then .ok fetch
  else if method = .put then .ok update
  else if method = .delete then .ok delete
  else .error (.methodNotAllowed method)

/-- The operation of a method on a list of elements, which can only be read. -/
def ofElements (method : Method) (count : Nat) : Except Refusal Operation :=
  if method = .get then .ok fetchMany
  else if method = .put ∨ method = .post ∨ method = .delete then .error (.writeToList method count)
  else .error (.methodNotAllowed method)

/-- The operation of a method on a relation. -/
def ofRelation (method : Method) : Except Refusal Operation :=
  if method = .get then .ok follow else .error (.methodNotAllowed method)

/-- The operation of a method on a route of a shape with a number of ids. -/
def of (shape : Shape) (method : Method) (count : Nat) : Except Refusal Operation :=
  if method = .options then .ok options
  else match shape with
    | .collection => ofCollection method
    | .element => if count = 1 then ofElement method else ofElements method count
    | .relation => ofRelation method

end Operation

end ResourceApi
