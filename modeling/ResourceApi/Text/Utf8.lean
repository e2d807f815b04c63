/-!
# UTF-8

Bodies, header values and query strings arrive as bytes. `symbols` reads bytes as a list of characters and gaps, a gap
for every longest beginning of a character that the next byte breaks off and for every byte that begins none. Strict
reading refuses a gap, lenient reading writes the replacement character for it.
-/

namespace ResourceApi

/-- A byte string. -/
abbrev Bytes := List UInt8

namespace Utf8

/-- The bytes of a list of characters. -/
def encodeChars (s : List Char) : Bytes :=
  s.flatMap String.utf8EncodeChar

theorem encodeChars_append (a b : List Char) : encodeChars (a ++ b) = encodeChars a ++ encodeChars b :=
  List.flatMap_append

/-- The bytes of a text. -/
def encode (s : String) : Bytes :=
  encodeChars s.toList

/-- What stands at the front of a byte string: a character, or a gap. Both say how many bytes after the first they
take. -/
inductive Symbol where
  | char (c : Char) (more : Nat)
  | gap (more : Nat)

/-- Read the continuation bytes that are still owed. The first of them lies between `low` and `high`, which keeps out
overlong forms, surrogates and values past the last code point; the others are free in their six bits. -/
def follow : (owed : Nat) → (low high : UInt8) → (value taken : Nat) → Bytes → Symbol
  | 0, _, _, value, taken, _ => .char (Char.ofNat value) taken
  | _ + 1, _, _, _, taken, [] => .gap taken
  | owed + 1, low, high, value, taken, b :: rest =>
    if low ≤ b ∧ b ≤ high then follow owed 0x80 0xBF (value * 64 + b.toNat % 64) (taken + 1) rest
    else .gap taken

/-- The character or gap that a lead byte begins. -/
def front (lead : UInt8) (rest : Bytes) : Symbol :=
  if lead < 0x80 then .char (Char.ofNat lead.toNat) 0
  else if lead < 0xC2 then .gap 0
  else if lead < 0xE0 then follow 1 0x80 0xBF (lead.toNat % 32) 0 rest
  else if lead < 0xF0 then
    follow 2 (if lead = 0xE0 then 0xA0 else 0x80) (if lead = 0xED then 0x9F else 0xBF) (lead.toNat % 16) 0 rest
  else if lead < 0xF5 then
    follow 3 (if lead = 0xF0 then 0x90 else 0x80) (if lead = 0xF4 then 0x8F else 0xBF) (lead.toNat % 8) 0 rest
  else .gap 0

/-- The characters and gaps of a byte string of which the first `skip` bytes were taken already. -/
def symbolsAfter : (skip : Nat) → Bytes → List (Option Char)
  | _, [] => []
  | skip + 1, _ :: rest => symbolsAfter skip rest
  | 0, lead :: rest =>
    match front lead rest with
    | .char c more => some c :: symbolsAfter more rest
    | .gap more => none :: symbolsAfter more rest

/-- The characters and gaps of a byte string. -/
def symbols (bytes : Bytes) : List (Option Char) :=
  symbolsAfter 0 bytes

/-- All values of a list of options, if none is missing. -/
def allPresent {α : Type} : List (Option α) → Option (List α)
  | [] => some []
  | none :: _ => none
  | some a :: rest => (allPresent rest).map (a :: ·)

/-- The characters of a byte string that has no gap. -/
def decodeChars? (bytes : Bytes) : Option (List Char) :=
  allPresent (symbols bytes)

/-- The text of a byte string that has no gap. -/
def decode? (bytes : Bytes) : Option String :=
  (decodeChars? bytes).map String.ofList

/-- The text of a byte string, with the replacement character for every gap. -/
def decodeLossy (bytes : Bytes) : String :=
  String.ofList ((symbols bytes).map fun symbol => symbol.getD '\uFFFD')

end Utf8

end ResourceApi
