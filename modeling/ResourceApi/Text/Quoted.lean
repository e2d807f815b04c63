import ResourceApi.Text.Lowercase
import ResourceApi.Text.VisibilityTable

/-!
# Quoted texts

How a text is shown in a description meant for people: in double quotes, with an escape for the quote, the backslash
and whatever would not be seen.
-/

namespace ResourceApi.Text

/-- Whether a character has to be named by its number to be seen. -/
def isUnseen (c : Char) : Bool :=
  [extendingRanges, fillerRanges, shapelessRanges].any fun ranges => inRanges ranges c.toNat

/-- One character inside quotes. -/
def quotedChar (c : Char) : List Char :=
  match c with
  | '\x00' => ['\\', '0']
  | '\t' => ['\\', 't']
  | '\r' => ['\\', 'r']
  | '\n' => ['\\', 'n']
  | '"' => ['\\', '"']
  | '\\' => ['\\', '\\']
  | c => if isUnseen c then ['\\', 'u', '\x7b'] ++ Nat.toDigits 16 c.toNat ++ ['\x7d'] else [c]

/-- A text in double quotes. -/
def quoted (s : String) : String :=
  String.ofList ('"' :: s.toList.flatMap quotedChar ++ ['"'])

end ResourceApi.Text
