import ResourceApi.Data.SortedMap
import ResourceApi.Decimal.Binary64

/-!
# JSON values

A number is an integer or a double, and the two are never the same value. The members of an object are a list; the
reader and `Json.object` keep it in name order without repetition, and what has an order of its own (a document, an
error) is written as the list it is.
-/

namespace ResourceApi

/-- A JSON number. -/
inductive Json.Number where
  | integer (value : Int)
  | float (value : Binary64)
  deriving DecidableEq

/-- A JSON value. -/
inductive Json where
  | null
  | bool (value : Bool)
  | num (value : Json.Number)
  | str (value : String)
  | arr (items : List Json)
  | obj (members : List (String × Json))

namespace Json

instance : Inhabited Json := ⟨null⟩

/-- Equality of numbers: of one sort and of equal value. -/
def Number.same : Number → Number → Bool
  | integer a, integer b => a == b
  | float a, float b => a.sameValue b
  | _, _ => false

mutual

/-- Equality of values. It differs from identity only in that the two zeros of the doubles are equal. -/
def same : Json → Json → Bool
  | null, null => true
  | bool a, bool b => a == b
  | num a, num b => a.same b
  | str a, str b => a == b
  | arr a, arr b => sameItems a b
  | obj a, obj b => sameMembers a b
  | _, _ => false

/-- Equality of lists of values, place by place. -/
def sameItems : List Json → List Json → Bool
  | [], [] => true
  | a :: as, b :: bs => same a b && sameItems as bs
  | _, _ => false

/-- Equality of lists of members, place by place. -/
def sameMembers : List (String × Json) → List (String × Json) → Bool
  | [], [] => true
  | (n, a) :: as, (m, b) :: bs => n == m && same a b && sameMembers as bs
  | _, _ => false

end

/-- The object of a map. -/
def object (members : SortedMap Json) : Json :=
  obj members.entries

/-- The text of a string. -/
def str? : Json → Option String
  | str s => some s
  | _ => none

/-- The members of an object. -/
def obj? : Json → Option (List (String × Json))
  | obj members => some members
  | _ => none

end Json

end ResourceApi
