import ResourceApi.Catalogue
import ResourceApi.Document.Record

/-!
# Looking relations up

Related entities are always asked of the data source of their own type. A reference is followed by its id, and if
that fails among the entities that name the owner; entities that name the owner are found by the query parameter of
the owner's type. `Viewpoint.lookup` does this for a document and turns every failure into an empty relation;
`Viewpoint.related` does it for the route of the relation and passes failures on.
-/

namespace ResourceApi

namespace Record

/-- The request for the entity that a record refers to. Of the client's request it has nothing but the header
fields. -/
def referenceRequest (target : Schema) (headers : Headers) : Request :=
  { Request.collection target.typeName with headers := headers }

/-- The request for the entities of a type that name a record as their owner. Of the client's request it has nothing
but the header fields. -/
def ownedRequest (owner : Record) (target : Schema) (headers : Headers) : Request :=
  (referenceRequest target headers).withQuery owner.schema.ownerParameter [owner.entity.id]

/-- The entities of a type that name a record as their owner. -/
def owned (owner : Record) (target : Schema) (headers : Headers) : Engine (List Entity) :=
  Engine.list target.typeName (owner.ownedRequest target headers)

/-- The entity that a record refers to by an id: the one found under the id, or else the first of that id among
those that name the record. If both ways fail, the fault of the first counts. -/
def referenced (owner : Record) (target : Schema) (headers : Headers) (id : String) : Engine (Option Entity) :=
  ExceptT.mk do
    match ← (Engine.fetch target.typeName id (referenceRequest target headers)).run with
    | .ok entity => return .ok (some entity)
    | .error fault =>
      match ← (owner.owned target headers).run with
      | .ok entities => return .ok (entities.find? fun e => e.id == id)
      | .error _ => return .error fault

/-- The entity that alone names a record as its owner. -/
def onlyOwned (owner : Record) (target : Schema) (headers : Headers) : Engine (Option Entity) := do
  let entities ← owner.owned target headers
  return match entities with
    | [entity] => some entity
    | _ => none

/-- The one entity that belongs to a record by a key: the one that the record refers to, or, if it refers to none,
the one that alone names it as its owner. -/
def partner (owner : Record) (target : Schema) (headers : Headers) (key : String) : Engine (Option Entity) :=
  match owner.entity.reference? key with
  | some id => owner.referenced target headers id
  | none => owner.onlyOwned target headers

end Record

/-- From where records are looked at: the resources there are, the path below which they lie, and the header fields
of the client. -/
structure Viewpoint where
  catalogue : Catalogue
  base : String
  headers : Headers

/-- What looking up a relation for a document gives: its link, and the records that it leads to. -/
structure Lookup where
  /-- The name of the relation. -/
  name : String
  link : Link
  found : List Record

/-- What the route of a relation leads to. -/
inductive Relatives where
  /-- The one related record, if there is one. -/
  | one (record : Option Record)
  /-- All related records. -/
  | many (records : List Record)

namespace Viewpoint

/-- The path of a relation of a record. -/
def relationPath (v : Viewpoint) (owner : Record) (relation : String) : String :=
  v.base ++ "/" ++ owner.schema.typeName ++ "/" ++ owner.entity.id ++ "/" ++ relation

/-- The record that a reference leads to; a failure leads nowhere. -/
def follow (v : Viewpoint) (owner : Record) (target : Schema) (id : String) : Plan (List Record) := do
  match ← (owner.referenced target v.headers id).run with
  | .ok (some entity) => return [⟨target, entity⟩]
  | _ => return []

/-- The records of a type that name a record as their owner; a failure finds none. -/
def gather (v : Viewpoint) (owner : Record) (target : Schema) : Plan (List Record) := do
  match ← (owner.owned target v.headers).run with
  | .ok entities => return entities.map (⟨target, ·⟩)
  | .error _ => return []

/-- The records that come with a document for a relation to one. Only a reference is followed, and only if the type
it leads to is served. -/
def foundOne (v : Viewpoint) (owner : Record) (sideLoad : Bool) (target key : String) : Plan (List Record) :=
  match owner.entity.reference? key, v.catalogue.schema? target, sideLoad with
  | some id, some schema, true => v.follow owner schema id
  | _, _, _ => pure []

/-- The records of a relation to many; of a type that is not served there are none. -/
def foundMany (v : Viewpoint) (owner : Record) (target : String) : Plan (List Record) :=
  match v.catalogue.schema? target with
  | some schema => v.gather owner schema
  | none => pure []

/-- Look up a relation to one: the link is known from the record alone, and the related record is asked for only if
it is to come with the document. -/
def lookupOne (v : Viewpoint) (owner : Record) (sideLoad : Bool) (name target key : String) : Plan Lookup := do
  let found ← v.foundOne owner sideLoad target key
  let link := { id := owner.entity.reference? key, type := target, resource := v.relationPath owner name }
  return { name, link, found }

/-- Look up a relation to many: the ids in the link are those of the records found. -/
def lookupMany (v : Viewpoint) (owner : Record) (name target : String) : Plan Lookup := do
  let found ← v.foundMany owner target
  let ids := found.map fun r => r.entity.id
  let link := { ids := some ids, type := target, resource := v.relationPath owner name }
  return { name, link, found }

/-- Look up a field of a record. Attributes lead nowhere. -/
def lookup (v : Viewpoint) (owner : Record) (sideLoad : Bool) (field : Field) : Plan (Option Lookup) :=
  match field.kind with
  | .scalar | .nullable => pure none
  | .toOne target key => some <$> v.lookupOne owner sideLoad field.name target key
  | .toMany target => some <$> v.lookupMany owner field.name target

/-- Look up all relations of a record, in the order of their declaration. -/
def lookups (v : Viewpoint) (owner : Record) (sideLoad : Bool) : Plan (List Lookup) := do
  let all ← Plan.forEach (v.lookup owner sideLoad) owner.schema.relations
  return all.filterMap id

/-- What a relation of a record leads to in a type that is served: with a key to one entity, without one to many. -/
def relatedIn (v : Viewpoint) (owner : Record) (target : Schema) : (key : Option String) → Engine Relatives
  | some key => do
    let entity ← owner.partner target v.headers key
    return .one (entity.map (⟨target, ·⟩))
  | none => do
    let entities ← owner.owned target v.headers
    return .many (entities.map (⟨target, ·⟩))

/-- What a field of a record leads to. -/
def related (v : Viewpoint) (owner : Record) (field : Field) : Engine Relatives :=
  match field.target? with
  | none => Engine.refuse (.notARelation field.name)
  | some target =>
    match v.catalogue.schema? target with
    | none => Engine.refuse (.unknownType target)
    | some schema => v.relatedIn owner schema field.key?

end Viewpoint

namespace Lookup

/-- The links of a record from what was looked up. -/
def links (lookups : List Lookup) : Links :=
  SortedMap.ofList (lookups.map fun l => (l.name, l.link))

/-- All records that were found, in order. -/
def records (lookups : List Lookup) : List Record :=
  lookups.flatMap Lookup.found

end Lookup

end ResourceApi
