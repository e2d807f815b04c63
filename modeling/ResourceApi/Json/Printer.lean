import ResourceApi.Decimal.Shortest
import ResourceApi.Json.Basic
import ResourceApi.Text.Digits
import ResourceApi.Text.Utf8

/-!
# Writing JSON

One line without blanks. In a string only the quote, the backslash and the control characters below the space are
escaped. A double is written by its shortest decimal, always with a point or an exponent, so it reads back as a
double.
-/

namespace ResourceApi.Json

/-- Doubles from `0.00001` up to `10 ^ 16` are written without an exponent. -/
def floatLayout : Decimal.Layout where
  leastPlain := -5
  firstScientific := 16

/-- The text of a number. -/
def Number.print : Number → List Char
  | integer value => (if value < 0 then ['-'] else []) ++ Nat.toDigits 10 value.natAbs
  | float value => (if value.negative then ['-'] else []) ++ value.shortest.layOut floatLayout

/-- One character inside a string. -/
def escapeChar (c : Char) : List Char :=
  if c = '"' then ['\\', '"']
  else if c = '\\' then ['\\', '\\']
  else if c = '\x08' then ['\\', 'b']
  else if c = '\x0C' then ['\\', 'f']
  else if c = '\n' then ['\\', 'n']
  else if c = '\r' then ['\\', 'r']
  else if c = '\t' then ['\\', 't']
  else if c.toNat < 0x20 then ['\\', 'u', '0', '0'] ++ Text.hexByte c.toNat
  else [c]

/-- A string. -/
def printString (s : String) : List Char :=
  '"' :: s.toList.flatMap escapeChar ++ ['"']

mutual

/-- The text of a value. -/
def print : Json → List Char
  | null => ['n', 'u', 'l', 'l']
  | bool true => ['t', 'r', 'u', 'e']
  | bool false => ['f', 'a', 'l', 's', 'e']
  | num value => value.print
  | str s => printString s
  | arr items => '[' :: printItems items ++ [']']
  | obj members => '\x7b' :: printMembers members ++ ['\x7d']

/-- The texts of the items of an array, with commas between them. -/
def printItems : List Json → List Char
  | [] => []
  | [item] => print item
  | item :: next :: more => print item ++ ',' :: printItems (next :: more)

/-- The texts of the members of an object, with commas between them. -/
def printMembers : List (String × Json) → List Char
  | [] => []
  | [(name, value)] => printString name ++ ':' :: print value
  | (name, value) :: next :: more => printString name ++ ':' :: print value ++ ',' :: printMembers (next :: more)

end

/-- The text of a value. -/
def text (value : Json) : String :=
  String.ofList value.print

/-- The text of a value as bytes. -/
def bytes (value : Json) : Bytes :=
  Utf8.encodeChars value.print

end ResourceApi.Json
