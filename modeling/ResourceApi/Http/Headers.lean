import ResourceApi.Data.SortedMap
import ResourceApi.Text.Utf8

/-!
# Header fields

The fields of a message under their lower-case names. One name may have several values, which keep their order; the
order between names carries no meaning, and they are kept sorted.
-/

namespace ResourceApi

/-- Header fields: the values of each name, in the order in which they came. -/
structure Headers where
  fields : SortedMap (List Bytes)

namespace Headers

/-- No fields. -/
def empty : Headers := ⟨SortedMap.empty⟩

instance : Inhabited Headers := ⟨empty⟩

/-- The values of a name, which is given in lower case. -/
def values (h : Headers) (name : String) : List Bytes :=
  (h.fields.get? name).getD []

/-- Whether a name has a value. -/
def has (h : Headers) (name : String) : Bool :=
  !(h.values name).isEmpty

/-- Put one value in the place of all values of a name. -/
def set (h : Headers) (name : String) (value : Bytes) : Headers :=
  ⟨h.fields.insert name [value]⟩

/-- Add a value after those of a name, whatever the case in which the name is written. -/
def add (h : Headers) (name : String) (value : Bytes) : Headers :=
  let name := String.ofList (name.toList.map Char.toLower)
  ⟨h.fields.insert name (h.values name ++ [value])⟩

/-- The fields of a list of names with values. -/
def ofList (fields : List (String × Bytes)) : Headers :=
  fields.foldl (fun h field => h.add field.1 field.2) empty

/-- The names with their values, sorted by name. -/
def toList (h : Headers) : List (String × Bytes) :=
  h.fields.entries.flatMap fun entry => entry.2.map fun value => (entry.1, value)

/-- Whether a byte may stand in a value: the tab, and all but the control characters. -/
def isValueByte (b : UInt8) : Bool :=
  b == 0x09 || (decide (0x20 ≤ b) && b != 0x7F)

/-- The value that a text is sent as, if it may be one. -/
def value? (text : String) : Option Bytes :=
  let bytes := Utf8.encode text
  if bytes.all isValueByte then some bytes else none

/-- Put a text in the place of all values of a name; a text that may not be a value changes nothing. -/
def setText (h : Headers) (name text : String) : Headers :=
  match value? text with
  | some value => h.set name value
  | none => h

end Headers

end ResourceApi
