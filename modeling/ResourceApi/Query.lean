import ResourceApi.Data.SortedMap
import ResourceApi.Text.Percent
import ResourceApi.Text.Pieces

/-!
# Query parameters

A query string lists names with values as web forms do: pairs are joined by ampersands, a plus sign is a space, and
percent escapes are decoded after the cut. Each value is then a list, cut at its commas. Of two pairs of one name the
earlier counts.
-/

namespace ResourceApi

namespace Form

/-- A name or a value as it was before it was written into a form. -/
def decode (bytes : Bytes) : String :=
  Utf8.decodeLossy (Percent.decodeBytes (bytes.map fun b => if b = 0x2B then 0x20 else b))

/-- The name and the value of a pair; the first equals sign parts them, and without one the value is empty. -/
def pair (piece : Bytes) : String × String :=
  (decode (piece.takeWhile (· != 0x3D)), decode ((piece.dropWhile (· != 0x3D)).drop 1))

/-- The pairs of a form in order; empty pieces are left out. -/
def pairs (s : String) : List (String × String) :=
  ((Text.pieces 0x26 (Utf8.encode s)).filter fun piece => !piece.isEmpty).map pair

end Form

/-- The parameters of a query: each name with its values. -/
structure Query where
  parameters : SortedMap (List String)

namespace Query

/-- No parameters. -/
def empty : Query := ⟨SortedMap.empty⟩

instance : Inhabited Query := ⟨empty⟩

/-- All values of a parameter. -/
def get? (q : Query) (name : String) : Option (List String) :=
  q.parameters.get? name

/-- The first value of a parameter. -/
def first? (q : Query) (name : String) : Option String :=
  (q.get? name).bind List.head?

/-- Whether a parameter is given. -/
def contains (q : Query) (name : String) : Bool :=
  q.parameters.contains name

/-- Set a parameter, over any values it had. -/
def insert (q : Query) (name : String) (values : List String) : Query :=
  ⟨q.parameters.insert name values⟩

/-- Set a parameter unless it is given already. -/
def insertNew (q : Query) (name : String) (values : List String) : Query :=
  if q.contains name then q else q.insert name values

/-- The parameters in name order. -/
def toList (q : Query) : List (String × List String) :=
  q.parameters.entries

/-- The number of parameters. -/
def size (q : Query) : Nat :=
  q.parameters.size

/-- Read a query string. -/
def ofText (s : String) : Query :=
  (Form.pairs s).foldl (fun q pair => q.insertNew pair.1 (Text.split ',' pair.2)) empty

end Query

end ResourceApi
