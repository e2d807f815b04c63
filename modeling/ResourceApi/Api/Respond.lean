import ResourceApi.Api.Rendered

/-!
# Responding

From a request as it arrives to the response: the body is read, the path is routed, the request is performed, and
what came of it is rendered. Whatever fails on the way becomes a response too, so there always is one.
-/

namespace ResourceApi

namespace Api

/-- Read and route a request. -/
def receive (api : Api) (raw : RawRequest) : Except Refusal (Shape × Request) :=
  match Chunk.collect raw.chunks with
  | .error reason => .error (.unreadableBody reason)
  | .ok body => api.mount.route (.ofRaw raw body)

/-- Read, route and perform a request, and render what came of it. -/
def handle (api : Api) (requestId : String) (raw : RawRequest) : Engine Response := do
  let (shape, request) ← Engine.accept (api.receive raw)
  let outcome ← api.perform shape request
  Engine.accept (outcome.response requestId)

/-- Respond to a request. -/
def respond (api : Api) (requestId : String) (raw : RawRequest) : Plan Response := do
  let handled ← (api.handle requestId raw).run
  let response := match handled with
    | .ok response => response
    | .error fault => fault.response requestId
  return response.finish requestId

end Api

/-- An API on a server whose health can be asked for. -/
structure Site where
  api : Api
  /-- The version that the server reports. -/
  version : String

namespace Site

/-- The paths under which the health of the server is asked for. -/
def healthPaths : List String :=
  ["/_health", "/health"]

/-- Whether a request asks for the health of the server. -/
def asksForHealth (raw : RawRequest) : Bool :=
  raw.method == .get && healthPaths.contains raw.target.path

/-- The report that the server runs. -/
def health (site : Site) : Response where
  status := .ok
  headers := Headers.empty.set "content-type" (Utf8.encode "application/json")
  body := ⟨(Json.obj [("status", .str "running"), ("version", .str site.version)]).bytes⟩

/-- Respond to a request: to one for the health of the server at once, to any other by the API. -/
def respond (site : Site) (requestId : String) (raw : RawRequest) : Plan Response :=
  if asksForHealth raw then pure site.health else site.api.respond requestId raw

end Site

end ResourceApi
