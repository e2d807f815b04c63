/-!
# Status codes

The codes that answers of the library carry. A data source or a controller may ask for any other.
-/

namespace ResourceApi

/-- A status code. -/
abbrev Status := Nat

namespace Status

/-- A document follows. -/
def ok : Status := 200

/-- An entity was created, and its document follows. -/
def created : Status := 201

/-- Done, and nothing follows. -/
def noContent : Status := 204

/-- The input was refused. -/
def badRequest : Status := 400

/-- There is nothing at this place. -/
def notFound : Status := 404

/-- The method does not apply to this place. -/
def methodNotAllowed : Status := 405

/-- The server failed. -/
def internalServerError : Status := 500

end Status

end ResourceApi
