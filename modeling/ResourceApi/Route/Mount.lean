import ResourceApi.Http.Body
import ResourceApi.Http.Target
import ResourceApi.Request
import ResourceApi.Route.Shape

/-!
# Mount points and routes

An API is mounted under a path, and its routes lie below it: `/type`, `/type/ids` and `/type/id/relation`, where ids
are joined by commas. `Mount.route` accepts these three and nothing else.
-/

namespace ResourceApi

/-- A request as it arrives, before it is read. -/
structure RawRequest where
  method : Method
  target : Target
  headers : Headers
  chunks : List Chunk

/-- A request that has been read but not routed. -/
structure Incoming where
  method : Method
  /-- The decoded segments of the path. -/
  segments : List String
  query : Query
  headers : Headers
  body : Bytes

/-- Read a request whose body is known. -/
def Incoming.ofRaw (raw : RawRequest) (body : Bytes) : Incoming where
  method := raw.method
  segments := Path.segments raw.target.path
  query := Query.ofText raw.target.query
  headers := raw.headers
  body := body

/-- The path under which an API is mounted, as decoded segments. -/
structure Mount where
  segments : List String
  deriving DecidableEq, Repr

namespace Mount

/-- An API at the root of a server. -/
def root : Mount := ⟨[]⟩

/-- The mount point of a path; slashes at its ends do not matter. -/
def ofText (path : String) : Mount :=
  ⟨Path.segments path⟩

/-- What every path below the mount point begins with: nothing, or a slash with each segment. -/
def path (m : Mount) : String :=
  m.segments.foldr (fun segment rest => "/" ++ segment ++ rest) ""

/-- The segments below the mount point. -/
def below? (m : Mount) (segments : List String) : Option (List String) :=
  if m.segments.isPrefixOf segments then some (segments.drop m.segments.length) else none

/-- The ids of a segment: its parts between commas, empty ones left out. -/
def idsOf (segment : String) : List String :=
  Text.splitNonEmpty ',' segment

/-- The shape, type, ids and relation of the segments below the mount point. -/
def parts? : List String → Option (Shape × String × List String × Option String)
  | [type] => some (.collection, type, [], none)
  | [type, ids] =>
    match idsOf ids with
    | [] => none
    | first :: more => some (.element, type, first :: more, none)
  | [type, ids, relation] =>
    match idsOf ids with
    | [id] => some (.relation, type, [id], some relation)
    | _ => none
  | _ => none

/-- The shape of the route that a request takes, and the request for the resource it leads to. -/
def route (m : Mount) (incoming : Incoming) : Except Refusal (Shape × Request) :=
  match (m.below? incoming.segments).bind parts? with
  | none => .error (.noRoute incoming.segments)
  | some (shape, resource, ids, relation) =>
    .ok (shape, {
      method := incoming.method
      resource := resource
      ids := ids
      relation := relation
      query := incoming.query
      headers := incoming.headers
      body := incoming.body })

end Mount

end ResourceApi
