/-!
# Methods

A method is any token, compared as it is written: `get` is not `GET`. Five of them mean something here.
-/

namespace ResourceApi

/-- A request method. -/
structure Method where
  name : String
  deriving DecidableEq, Repr

namespace Method

/-- Read. -/
def get : Method := ⟨"GET"⟩

/-- Create. -/
def post : Method := ⟨"POST"⟩

/-- Change. -/
def put : Method := ⟨"PUT"⟩

/-- Remove. -/
def delete : Method := ⟨"DELETE"⟩

/-- Ask which methods apply. -/
def options : Method := ⟨"OPTIONS"⟩

end Method

end ResourceApi
