import ResourceApi.Text.CaseTable

/-!
# Lower case

Lower-casing of a text in any script. Two characters need more than a table: the capital I with a dot becomes an i
and a combining dot, and the capital sigma becomes the final sigma at the end of a word.
-/

namespace ResourceApi.Text

/-- Whether a code point lies in one of the ranges. -/
def inRanges (ranges : List (Nat × Nat)) (code : Nat) : Bool :=
  ranges.any fun range => decide (range.1 ≤ code) && decide (code ≤ range.2)

/-- The lower-case form of one character, wherever it stands. -/
def lowerChar (c : Char) : List Char :=
  if c = '\u0130' then ['i', '\u0307']
  else
    match lowered.find? fun run => run.contains c.toNat with
    | some run => [Char.ofNat (run.image + (c.toNat - run.first))]
    | none => [c]

/-- Whether the nearest character that is not passed over has a case. -/
def meetsCased (s : List Char) : Bool :=
  match s.dropWhile fun c => inRanges ignorableRanges c.toNat with
  | [] => false
  | c :: _ => inRanges casedRanges c.toNat

/-- Lower-case the rest of a text; `before` holds the characters already passed, the nearest first. -/
def lowerAfter (before : List Char) : List Char → List Char
  | [] => []
  | c :: rest =>
    let image :=
      if c = 'Σ' then
        if meetsCased before && !meetsCased rest then ['ς'] else ['σ']
      else lowerChar c
    image ++ lowerAfter (c :: before) rest

/-- A text in lower case. A sigma is final if a letter comes before it and none after it, marks aside. -/
def lowercase (s : String) : String :=
  String.ofList (lowerAfter [] s.toList)

end ResourceApi.Text
