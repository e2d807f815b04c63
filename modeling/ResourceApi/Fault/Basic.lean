import ResourceApi.Http.Status
import ResourceApi.Text.Digits

/-!
# Faults

A fault ends a request. Its kind says who is to blame and so whether the client is told anything: an internal fault is
never explained. Title, field errors and status may be told; the cause is for the log alone.
-/

namespace ResourceApi

/-- The kinds of faults. -/
inductive Fault.Kind where
  /-- A type, a relation or an entity does not exist. -/
  | notFound
  /-- The input was refused. -/
  | validation
  /-- The server failed; the client learns no more than that. -/
  | internal
  /-- The status was chosen by whoever raised the fault. -/
  | chosen
  deriving DecidableEq, Repr

namespace Fault.Kind

/-- A fault of which nothing is known is internal. -/
instance : Inhabited Fault.Kind := ⟨internal⟩

/-- The name of a kind in messages. -/
def name : Kind → String
  | notFound => "NotFound"
  | validation => "Validation"
  | internal => "InternalServerError"
  | chosen => "Http"

/-- The status of a kind, unless another is chosen. -/
def status : Kind → Status
  | notFound => .notFound
  | validation => .badRequest
  | internal | chosen => .internalServerError

end Fault.Kind

/-- What is wrong with one field of the input. -/
structure FieldFault where
  /-- A name for the error, chosen by whoever raised it. -/
  id : String
  /-- The field. -/
  path : String
  deriving DecidableEq, Repr

/-- Why a request failed. -/
structure Fault where
  kind : Fault.Kind
  status : Status
  title : String
  /-- The errors of single fields, in the order in which they were found. -/
  fieldFaults : List FieldFault := []
  /-- What lies behind the fault. It is never sent. -/
  cause : Option String := none
  deriving DecidableEq, Repr

namespace Fault

/-- A fault with the status of its kind. -/
def ofKind (kind : Kind) (title : String) : Fault where
  kind := kind
  status := kind.status
  title := title

/-- A fault with a chosen status. -/
def chosen (status : Status) (title : String) : Fault where
  kind := .chosen
  status := status
  title := title

/-- Something does not exist. -/
def notFound (title : String) : Fault := ofKind .notFound title

/-- The input was refused. -/
def validation (title : String) : Fault := ofKind .validation title

/-- The server failed. -/
def internal (title : String) : Fault := ofKind .internal title

/-- Add an error of a field after those there are. -/
def addField (fault : Fault) (id path : String) : Fault :=
  { fault with fieldFaults := fault.fieldFaults ++ [⟨id, path⟩] }

/-- Say what lies behind a fault. -/
def becauseOf (fault : Fault) (cause : String) : Fault :=
  { fault with cause := some cause }

/-- Whether the client is told about a fault. -/
def isExplained (fault : Fault) : Bool :=
  fault.kind != .internal

/-- A fault in one line, for the log. -/
def describe (fault : Fault) : String :=
  "ApiError(" ++ fault.kind.name ++ ", " ++ Text.decimal fault.status ++ "): " ++ fault.title

end Fault

end ResourceApi
