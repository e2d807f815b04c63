import ResourceApi.Json.Basic
import ResourceApi.Text.Digits
import ResourceApi.Text.Utf8

/-!
# Reading JSON

The reader takes a text that is one JSON value with blanks around it, and refuses every other: no comments, no
trailing commas, no bare control characters in strings, no halves of surrogate pairs, no more than a given depth of
nesting. Of two members of one name the later counts. Every function takes a text and returns what it read with the
rest.
-/

namespace ResourceApi.Json

/-- The four blanks that may stand between tokens. -/
def isBlank (c : Char) : Bool :=
  c == ' ' || c == '\n' || c == '\r' || c == '\t'

/-- Pass over blanks. -/
def skipBlanks (s : List Char) : List Char :=
  s.dropWhile isBlank

/-- Pass over a fixed word. -/
def expect (word : List Char) (s : List Char) : Option (List Char) :=
  if word.isPrefixOf s then some (s.drop word.length) else none

/-! ## Numbers -/

/-- The least number that no longer fits a significand. -/
def significandLimit : Nat := 0x10000000000000000

/-- Append digits to a significand while it stays below the limit; the digits from the first that does not fit are
left. -/
def gather (significand : Nat) : List Char → Nat × List Char
  | [] => (significand, [])
  | c :: rest =>
    let longer := significand * 10 + (c.toNat - '0'.toNat)
    if longer < significandLimit then gather longer rest else (significand, c :: rest)

/-- The parts of a number as written. -/
structure Numeral where
  /-- Whether a minus stands before it. -/
  negative : Bool
  /-- The digits before the point. -/
  whole : List Char
  /-- The digits after the point, if there is one. -/
  fraction : Option (List Char)
  /-- The power of ten, if one is given. -/
  power : Option Int

/-- The value of a numeral. Without point and power it is an integer, if it fits 64 bits and is not the negative zero.
All else is a double: digits past the significand count only by their place. -/
def Numeral.value? (n : Numeral) : Option Number :=
  let (significand, dropped) := gather 0 n.whole
  match n.fraction, n.power with
  | none, none =>
    if dropped.isEmpty ∧ n.negative = false then some (.integer significand)
    else if dropped.isEmpty ∧ significand ≠ 0 ∧ significand ≤ 0x8000000000000000 then some (.integer (-significand))
    else (Binary64.ofDecimal? n.negative significand dropped.length).map .float
  | fraction, power =>
    let digits := fraction.getD []
    let (significand, rest) := gather significand digits
    let exponent := (dropped.length : Int) - ((digits.length : Int) - rest.length) + power.getD 0
    (Binary64.ofDecimal? n.negative significand exponent).map .float

/-- Read a run of at least one digit. -/
def readDigits (s : List Char) : Option (List Char × List Char) :=
  let digits := s.takeWhile Char.isDigit
  if digits.isEmpty then none else some (digits, s.dropWhile Char.isDigit)

/-- Read the digits before the point; a zero stands alone. -/
def readWhole (s : List Char) : Option (List Char × List Char) :=
  (readDigits s).bind fun (digits, rest) =>
    if digits.head? = some '0' ∧ digits.length ≠ 1 then none else some (digits, rest)

/-- Read a point and the digits after it, if there is a point. -/
def readFraction (s : List Char) : Option (Option (List Char) × List Char) :=
  match s with
  | '.' :: rest => (readDigits rest).map fun (digits, rest) => (some digits, rest)
  | _ => some (none, s)

/-- Read a signed run of digits. -/
def readSigned (s : List Char) : Option (Int × List Char) :=
  let (negative, digits) : Bool × List Char := match s with
    | '-' :: rest => (true, rest)
    | '+' :: rest => (false, rest)
    | _ => (false, s)
  (readDigits digits).map fun (digits, rest) =>
    let magnitude : Int := Nat.ofDigitChars 10 digits 0
    (if negative then -magnitude else magnitude, rest)

/-- Read a power of ten, if there is one. -/
def readPower (s : List Char) : Option (Option Int × List Char) :=
  match s with
  | c :: rest =>
    if c = 'e' ∨ c = 'E' then (readSigned rest).map fun (power, rest) => (some power, rest)
    else some (none, s)
  | [] => some (none, [])

/-- Read a number. -/
def readNumber (s : List Char) : Option (Number × List Char) := do
  let (negative, s) : Bool × List Char := match s with
    | '-' :: rest => (true, rest)
    | _ => (false, s)
  let (whole, s) ← readWhole s
  let (fraction, s) ← readFraction s
  let (power, s) ← readPower s
  let value ← Numeral.value? ⟨negative, whole, fraction, power⟩
  return (value, s)

/-! ## Strings -/

/-- Read the four digits of a numbered escape. -/
def readUnit : List Char → Option (Nat × List Char)
  | a :: b :: c :: d :: rest => do
    let a ← Text.digitValue? 16 a
    let b ← Text.digitValue? 16 b
    let c ← Text.digitValue? 16 c
    let d ← Text.digitValue? 16 d
    return (((a * 16 + b) * 16 + c) * 16 + d, rest)
  | _ => none

/-- The character that an escape of one letter stands for. -/
def shortEscape? : Char → Option Char
  | '"' => some '"'
  | '\\' => some '\\'
  | '/' => some '/'
  | 'b' => some '\x08'
  | 'f' => some '\x0C'
  | 'n' => some '\n'
  | 'r' => some '\r'
  | 't' => some '\t'
  | _ => none

/-- Read a numbered escape after its letter: one unit, or two that form a surrogate pair. -/
def readNumbered (s : List Char) : Option (Char × List Char) := do
  let (unit, rest) ← readUnit s
  if unit < 0xD800 ∨ 0xE000 ≤ unit then return (Char.ofNat unit, rest)
  else if 0xDC00 ≤ unit then none
  else
    let rest ← expect ['\\', 'u'] rest
    let (low, rest) ← readUnit rest
    if low < 0xDC00 ∨ 0xE000 ≤ low then none
    else return (Char.ofNat (0x10000 + (unit - 0xD800) * 0x400 + (low - 0xDC00)), rest)

/-- Read an escape after its backslash. -/
def readEscape : List Char → Option (Char × List Char)
  | [] => none
  | c :: rest => if c = 'u' then readNumbered rest else (shortEscape? c).map (·, rest)

/-- Read a string after its opening quote. -/
def readString : (fuel : Nat) → List Char → Option (List Char × List Char)
  | 0, _ => none
  | _ + 1, [] => none
  | fuel + 1, c :: rest =>
    if c = '"' then some ([], rest)
    else if c = '\\' then do
      let (c, rest) ← readEscape rest
      let (more, rest) ← readString fuel rest
      return (c :: more, rest)
    else if c.toNat < 0x20 then none
    else do
      let (more, rest) ← readString fuel rest
      return (c :: more, rest)

/-! ## Values -/

mutual

/-- Read a value after the blanks before it. At most `depth` arrays and objects may be open inside one another. -/
def readValue : (fuel depth : Nat) → List Char → Option (Json × List Char)
  | 0, _, _ => none
  | fuel + 1, depth, s =>
    match skipBlanks s with
    | [] => none
    | c :: rest =>
      if c = 'n' then (expect ['u', 'l', 'l'] rest).map (null, ·)
      else if c = 't' then (expect ['r', 'u', 'e'] rest).map (bool true, ·)
      else if c = 'f' then (expect ['a', 'l', 's', 'e'] rest).map (bool false, ·)
      else if c = '"' then (readString fuel rest).map fun (s, rest) => (str (String.ofList s), rest)
      else if c = '[' then
        match depth, skipBlanks rest with
        | 0, _ => none
        | _ + 1, ']' :: rest => some (arr [], rest)
        | depth + 1, rest => (readItems fuel depth rest).map fun (items, rest) => (arr items, rest)
      else if c = '\x7b' then
        match depth, skipBlanks rest with
        | 0, _ => none
        | _ + 1, '\x7d' :: rest => some (obj [], rest)
        | depth + 1, rest => (readMembers fuel depth [] rest).map fun (members, rest) => (obj members, rest)
      else (readNumber (c :: rest)).map fun (value, rest) => (num value, rest)

/-- Read the items of an array up to its closing bracket. -/
def readItems : (fuel depth : Nat) → List Char → Option (List Json × List Char)
  | 0, _, _ => none
  | fuel + 1, depth, s => do
    let (item, rest) ← readValue fuel depth s
    match skipBlanks rest with
    | ']' :: rest => return ([item], rest)
    | ',' :: rest =>
      let (more, rest) ← readItems fuel depth rest
      return (item :: more, rest)
    | _ => none

/-- Read the members of an object up to its closing brace, and put each among those read before it. -/
def readMembers : (fuel depth : Nat) → List (String × Json) → List Char → Option (List (String × Json) × List Char)
  | 0, _, _, _ => none
  | fuel + 1, depth, members, s =>
    match skipBlanks s with
    | '"' :: rest => do
      let (name, rest) ← readString fuel rest
      let rest ← expect [':'] (skipBlanks rest)
      let (value, rest) ← readValue fuel depth rest
      let members := Entries.insert (String.ofList name) value members
      match skipBlanks rest with
      | '\x7d' :: rest => return (members, rest)
      | ',' :: rest => readMembers fuel depth members rest
      | _ => none
    | _ => none

end

/-- The value of a text, with at most `depth` arrays and objects open inside one another. Every step of the reader
takes a character, so the length of the text bounds their number. -/
def ofChars? (depth : Nat) (s : List Char) : Option Json :=
  match readValue (s.length + 1) depth s with
  | some (value, rest) => if skipBlanks rest = [] then some value else none
  | none => none

/-- The depth of nesting that documents may have. -/
def maxDepth : Nat := 127

/-- The value of a byte string that is JSON text in UTF-8. -/
def ofBytes? (bytes : Bytes) : Option Json :=
  (Utf8.decodeChars? bytes).bind (ofChars? maxDepth)

end ResourceApi.Json
