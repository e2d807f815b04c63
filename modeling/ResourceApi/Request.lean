import ResourceApi.Http.Headers
import ResourceApi.Http.Method
import ResourceApi.Query

/-!
# Requests

A request as data sources and controllers see it: addressed to a resource type, and no longer to a path.
-/

namespace ResourceApi

/-- A request for a resource. -/
structure Request where
  method : Method
  /-- The resource type. -/
  resource : String
  /-- The ids of the addressed entities; none for the whole type. -/
  ids : List String
  /-- The relation whose entities are asked for. -/
  relation : Option String
  query : Query
  headers : Headers
  body : Bytes

namespace Request

/-- A plain reading request for all entities of a type. -/
def collection (resource : String) : Request where
  method := .get
  resource := resource
  ids := []
  relation := none
  query := Query.empty
  headers := Headers.empty
  body := []

instance : Inhabited Request := ⟨collection ""⟩

/-- Set a query parameter. -/
def withQuery (r : Request) (name : String) (values : List String) : Request :=
  { r with query := r.query.insert name values }

/-- The id, if there is exactly one. -/
def id? (r : Request) : Option String :=
  match r.ids with
  | [id] => some id
  | _ => none

end Request

end ResourceApi
