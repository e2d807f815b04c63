import ResourceApi.Document.Assembly
import ResourceApi.Entity.Submitted
import ResourceApi.Route.Mount

/-!
# Performing requests

What an API does with a routed request: the type is looked up, the operation is picked, the controller of the type
is asked if it has one, the data source is called unless the controller answered in its place, and the document of
the result is assembled. The first failure ends it; only failing relations of a shown record do not count.
-/

namespace ResourceApi

/-- An API: the resources it serves and where it is mounted. -/
structure Api where
  catalogue : Catalogue
  mount : Mount

/-- What came of a request that did not fail. -/
inductive Outcome where
  /-- A document, with the path of the entity if it was created. -/
  | document (status : Status) (content : Document) (location : Option String)
  /-- Nothing to show, with the methods that apply if they were asked for. -/
  | noContent (allow : Option String)

namespace Request

/-- The only id of a request. -/
def onlyId (r : Request) : Except Refusal String :=
  match r.id? with
  | some id => .ok id
  | none => .error (.notOneId r.ids.length)

end Request

namespace Entity

/-- Put an entity under the id of the path. An entity that names another id is refused. -/
def under (e : Entity) (id : String) : Except Refusal Entity :=
  if e.id.isEmpty then .ok { e with id := id }
  else if e.id = id then .ok e
  else .error (.idMismatch e.id id)

end Entity

namespace Api

/-- From where records are looked at for a request. -/
def viewpoint (api : Api) (request : Request) : Viewpoint where
  catalogue := api.catalogue
  base := api.mount.path
  headers := request.headers

/-- The path of an entity. -/
def elementPath (api : Api) (type id : String) : String :=
  api.mount.path ++ "/" ++ type ++ "/" ++ id

/-- Read all entities of a type. -/
def list (api : Api) (o : Offering) (request : Request) : Engine Outcome := do
  let entities ← o.answer request .list (Engine.list o.typeName request)
  let report ← (api.viewpoint request).reportOfAll (entities.map (⟨o.schema, ·⟩))
  return .document .ok report.document none

/-- Read one entity. -/
def fetch (api : Api) (o : Offering) (request : Request) : Engine Outcome := do
  let id ← Engine.accept request.onlyId
  let entity ← o.answer request (.fetch id) (Engine.fetch o.typeName id request)
  let report ← (api.viewpoint request).reportOf ⟨o.schema, entity⟩
  return .document .ok report.document none

/-- The entities found for a list of ids, of which there has to be one. -/
def someFound (type : String) (ids : List String) (entities : List Entity) : Except Refusal (List Entity) :=
  if entities.isEmpty then .error (.noneFound type ids) else .ok entities

/-- Read the entities of a list of ids. No controller is asked. -/
def fetchMany (api : Api) (o : Offering) (request : Request) : Engine Outcome := do
  let found ← Engine.fetchMany o.typeName request.ids request
  let entities ← Engine.accept (someFound o.typeName request.ids found)
  let report ← (api.viewpoint request).reportOfAll (entities.map (⟨o.schema, ·⟩))
  return .document .ok report.document none

/-- Read what a relation of an entity leads to. No controller is asked. -/
def follow (api : Api) (o : Offering) (request : Request) : Engine Outcome := do
  let id ← Engine.accept request.onlyId
  let field ← Engine.accept (o.relation (request.relation.getD ""))
  let entity ← Engine.fetch o.typeName id request
  let related ← (api.viewpoint request).related ⟨o.schema, entity⟩ field
  let report ← (api.viewpoint request).reportOfRelatives related
  return .document .ok report.document none

/-- Store a new entity and read it back. -/
def createAndRead (o : Offering) (request : Request) (entity : Entity) : Engine Entity := do
  let id ← Engine.create o.typeName entity
  Engine.fetch o.typeName id request

/-- Create an entity from the body, and show it as the data source then has it. -/
def create (api : Api) (o : Offering) (request : Request) : Engine Outcome := do
  let entity ← Engine.accept (Entity.ofBody o.schema request.body)
  let created ← o.answer request (.create entity) (createAndRead o request entity)
  let report ← (api.viewpoint request).reportOf ⟨o.schema, created⟩
  return .document .created report.document (some (api.elementPath o.typeName created.id))

/-- Change an entity as the body says. -/
def update (o : Offering) (request : Request) : Engine Outcome := do
  let id ← Engine.accept request.onlyId
  let sent ← Engine.accept (Entity.ofBody o.schema request.body)
  let entity ← Engine.accept (sent.under id)
  o.answer request (.update entity) (Engine.update o.typeName entity)
  return .noContent none

/-- Remove an entity. -/
def delete (o : Offering) (request : Request) : Engine Outcome := do
  let id ← Engine.accept request.onlyId
  o.answer request (.delete id) (Engine.delete o.typeName id)
  return .noContent none

/-- Perform an operation on a resource. -/
def performOn (api : Api) (o : Offering) (shape : Shape) (request : Request) : Operation → Engine Outcome
  | .list => api.list o request
  | .fetch => api.fetch o request
  | .fetchMany => api.fetchMany o request
  | .follow => api.follow o request
  | .create => api.create o request
  | .update => update o request
  | .delete => delete o request
  | .options => return .noContent (some shape.allow)

/-- Perform a routed request. The type is looked up before the operation is picked, so an unknown type is reported
whatever the method. -/
def perform (api : Api) (shape : Shape) (request : Request) : Engine Outcome := do
  let o ← Engine.accept (api.catalogue.find request.resource)
  let operation ← Engine.accept (Operation.of shape request.method request.ids.length)
  api.performOn o shape request operation

end Api

end ResourceApi
