import ResourceApi.Api.Perform
import ResourceApi.Http.Response
import ResourceApi.Json.Printer

/-!
# Rendering outcomes and faults

A fault is told either by its status and title or by its field errors, and an internal fault not at all. An outcome
is its document or an empty body. The only outcome that cannot be rendered is a created entity whose path may not
stand in a header field.
-/

namespace ResourceApi

namespace FieldFault

/-- A field error as a JSON object. -/
def json (e : FieldFault) : Json :=
  .obj [("id", .str e.id), ("path", .str e.path)]

end FieldFault

namespace Fault

/-- What a client is told of a fault: its field errors if it has any, or else its status and title. -/
def errors (fault : Fault) : List Json :=
  match fault.fieldFaults with
  | [] => [.obj [("status", .str (Text.decimal fault.status)), ("title", .str fault.title)]]
  | first :: more => (first :: more).map FieldFault.json

/-- The document of a fault. -/
def json (fault : Fault) : Json :=
  .obj [("errors", .arr fault.errors)]

/-- The document of a fault, if the client is told of it. -/
def document? (fault : Fault) : Option Bytes :=
  if fault.isExplained then some fault.json.bytes else none

/-- A fault as a response. -/
def response (fault : Fault) (requestId : String) : Response :=
  match fault.document? with
  | some document => .ofDocument fault.status document requestId
  | none => .bare .internalServerError requestId

end Fault

namespace Outcome

/-- Say where a created entity is. -/
def locate (r : Response) : Option String → Except Refusal Response
  | none => .ok r
  | some location =>
    match Headers.value? location with
    | some value => .ok (r.setHeader "location" value)
    | none => .error (.unsendableLocation location)

/-- Say which methods apply. -/
def permit (r : Response) : Option String → Response
  | none => r
  | some allow => r.setHeader "allow" (Utf8.encode allow)

/-- An outcome as a response. -/
def response (outcome : Outcome) (requestId : String) : Except Refusal Response :=
  match outcome with
  | .document status content location => locate (.ofDocument status content.json.bytes requestId) location
  | .noContent allow => .ok (permit (.bare .noContent requestId) allow)

end Outcome

end ResourceApi
