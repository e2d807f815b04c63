import ResourceApi.Fault.Basic
import ResourceApi.Http.Method
import ResourceApi.Text.Pieces

/-!
# Refusals

The reasons for which the library itself turns a request down, each with what it depends on. `Refusal.fault` is the
only place where they are put into words. Faults raised by data sources and controllers are their own and are passed
on as they are.
-/

namespace ResourceApi

/-- Why the library turns a request down. -/
inductive Refusal where
  /-- The body of the request broke off. -/
  | unreadableBody (reason : String)
  /-- No route has these segments. -/
  | noRoute (segments : List String)
  /-- No resource of this type is registered. -/
  | unknownType (type : String)
  /-- The method does not apply to a route of this shape. -/
  | methodNotAllowed (method : Method)
  /-- A write is addressed to several ids, or to none. -/
  | writeToList (method : Method) (count : Nat)
  /-- An operation on one entity is given another number of ids. -/
  | notOneId (count : Nat)
  /-- None of the ids of a list is known. -/
  | noneFound (type : String) (ids : List String)
  /-- A type has no relation of this name. -/
  | unknownRelation (name type : String)
  /-- A field is no relation. -/
  | notARelation (name : String)
  /-- The body is not JSON. -/
  | malformedBody
  /-- The body holds nothing under the name of the type. -/
  | missingEntity (type : String)
  /-- What the body holds under the name of the type is neither an object nor an array. -/
  | notAnEntity (type : String)
  /-- The only item of the array under the name of the type is not an object. -/
  | itemNotAnEntity (type : String)
  /-- The array under the name of the type has another number of items than one. -/
  | notOneEntity (type : String) (count : Nat)
  /-- The id in the body is neither a string nor a number. -/
  | malformedId
  /-- The body names another entity than the path. -/
  | idMismatch (body path : String)
  /-- The address of a created entity cannot be sent. -/
  | unsendableLocation (location : String)
  deriving DecidableEq, Repr

namespace Refusal

/-- A refusal in words, with its kind and status. -/
def fault : Refusal → Fault
  | unreadableBody reason => .internal ("Failed to read request body: " ++ reason)
  | noRoute segments => .notFound ("no route for /" ++ Text.join "/" segments)
  | unknownType type => .notFound ("resource type " ++ type ++ " not found")
  | methodNotAllowed method => .chosen .methodNotAllowed ("method " ++ method.name ++ " not allowed")
  | writeToList method count => .internal (method.name ++ " on " ++ Text.decimal count ++ " ids is not supported")
  | notOneId count => .internal ("expected exactly one id, got " ++ Text.decimal count)
  | noneFound type ids => .notFound ("no " ++ type ++ " found for ids " ++ Text.join "," ids)
  | unknownRelation name type => .notFound ("relation " ++ name ++ " not found on " ++ type)
  | notARelation name => .notFound ("relation " ++ name ++ " not found")
  | malformedBody => (Fault.validation "Bad Request").becauseOf "the body is not a JSON document"
  | missingEntity type => .validation ("expected top-level key " ++ type)
  | notAnEntity type => .validation (type ++ " must be an object or an array")
  | itemNotAnEntity type => .validation (type ++ " entry must be an object")
  | notOneEntity type count => .internal ("expected exactly one " ++ type ++ " entity, got " ++ Text.decimal count)
  | malformedId => (Fault.validation "Bad Request").addField "invalid-id" "id"
  | idMismatch body path => .validation ("body id " ++ body ++ " does not match url id " ++ path)
  | unsendableLocation location =>
    .internal ("invalid location header " ++ location ++ ": failed to parse header value")

end Refusal

end ResourceApi
