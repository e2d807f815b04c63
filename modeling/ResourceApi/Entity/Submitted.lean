import ResourceApi.Entity.Basic
import ResourceApi.Fault.Refusal
import ResourceApi.Json.Printer
import ResourceApi.Json.Reader
import ResourceApi.Schema.Basic

/-!
# Submitted entities

What a client sends to create or change an entity is a JSON object with one member named for the type. It holds the
entity, or an array with the entity as its only item. Of the entity, only what the schema declares is read.
-/

namespace ResourceApi.Entity

/-- The id that a client gives: a text, or a number by its text. None or null leaves the id empty. -/
def submittedId : Option Json → Except Refusal String
  | none => .ok ""
  | some .null => .ok ""
  | some (.str id) => .ok id
  | some (.num id) => .ok (String.ofList id.print)
  | some _ => .error .malformedId

/-- The id of the related entity that a client gives for a relation: under the name of the relation among the links,
or else under the key among the values. -/
def submittedReference (members : List (String × Json)) (relation key : String) : Option String :=
  let links := ((Entries.find? "links" members).bind Json.obj?).getD []
  ((Entries.find? relation links).bind Json.str?).or ((Entries.find? key members).bind Json.str?)

/-- Read what a field takes from the members of an object. Relations to many entities take nothing. -/
def takeField (members : List (String × Json)) (e : Entity) (field : Field) : Entity :=
  match field.kind with
  | .scalar | .nullable =>
    match Entries.find? field.name members with
    | some value => e.set field.name value
    | none => e
  | .toOne _ key =>
    match submittedReference members field.name key with
    | some id => e.set key (.str id)
    | none => e
  | .toMany _ => e

/-- Read an entity of a schema from the members of an object. -/
def ofMembers (schema : Schema) (members : List (String × Json)) : Except Refusal Entity := do
  let id ← submittedId (Entries.find? "id" members)
  return schema.fields.foldl (takeField members) (bare id)

/-- The members of the entity that stands under the name of a type. -/
def submittedMembers (type : String) : Json → Except Refusal (List (String × Json))
  | .obj members => .ok members
  | .arr [.obj members] => .ok members
  | .arr [_] => .error (.itemNotAnEntity type)
  | .arr items => .error (.notOneEntity type items.length)
  | _ => .error (.notAnEntity type)

/-- Read the entity of a schema from a JSON document. -/
def ofDocument (schema : Schema) (document : Json) : Except Refusal Entity := do
  match document.obj?.bind (Entries.find? schema.typeName) with
  | none => .error (.missingEntity schema.typeName)
  | some payload =>
    let members ← submittedMembers schema.typeName payload
    ofMembers schema members

/-- Read the entity of a schema from the body of a request. -/
def ofBody (schema : Schema) (body : Bytes) : Except Refusal Entity :=
  match Json.ofBytes? body with
  | none => .error .malformedBody
  | some document => ofDocument schema document

end ResourceApi.Entity
