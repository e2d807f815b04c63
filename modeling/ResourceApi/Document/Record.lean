import ResourceApi.Entity.Basic
import ResourceApi.Schema.Basic

/-!
# Records and links

A record is an entity with the schema of its type, which is what can be shown. `Record.render` shows it as a JSON
object: its id and type, its attributes, and its links if the schema declares relations.
-/

namespace ResourceApi

/-- An entity with the schema of its type. -/
structure Record where
  schema : Schema
  entity : Entity

namespace Record

/-- What tells records apart: the type and the id. -/
def key (r : Record) : String × String :=
  (r.schema.typeName, r.entity.id)

end Record

/-- What is shown of one relation of a record. -/
structure Link where
  /-- The id of the one related entity, if it is known. -/
  id : Option String := none
  /-- The ids of the related entities of a relation to many. -/
  ids : Option (List String) := none
  /-- The type that the relation leads to. -/
  type : String
  /-- The path of the relation. -/
  resource : String
  deriving DecidableEq, Repr

namespace Link

/-- A link as a JSON object. -/
def json (l : Link) : Json :=
  .obj (((l.id.map fun id => ("id", Json.str id)).toList)
    ++ ((l.ids.map fun ids => ("ids", Json.arr (ids.map Json.str))).toList)
    ++ [("resource", .str l.resource), ("type", .str l.type)])

end Link

/-- The links of a record, by the names of the relations. -/
abbrev Links : Type :=
  SortedMap Link

namespace Links

/-- Links as a JSON object. -/
def json (links : Links) : Json :=
  .obj (links.entries.map fun entry => (entry.1, entry.2.json))

end Links

namespace Record

/-- Show an attribute: its value if it is set, null if it may be missing. -/
def showAttribute (e : Entity) (shown : SortedMap Json) (field : Field) : SortedMap Json :=
  match e.get? field.name, field.kind with
  | some value, _ => shown.insert field.name value
  | none, .nullable => shown.insert field.name .null
  | none, _ => shown

/-- Show a record with its links. -/
def render (r : Record) (links : Links) : Json :=
  let named := (SortedMap.empty.insert "id" (.str r.entity.id)).insert "type" (.str r.schema.typeName)
  let shown := r.schema.attributes.foldl (showAttribute r.entity) named
  .object (if r.schema.relations.isEmpty then shown else shown.insert "links" links.json)

end Record

end ResourceApi
