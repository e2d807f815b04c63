import ResourceApi.Text.Lowercase

/-!
# Names of resource types and relations

A resource type is named by the plural of its noun in lower case (`Category` gives `categories`), a relation by its
field name with a small first letter. The plural follows the spelling alone: a final y after a consonant becomes ies,
a sibilant ending takes es, and every other word takes s.
-/

namespace ResourceApi.Naming

/-- The five vowels before which a final y stays. -/
def isVowel (c : Char) : Bool :=
  ['a', 'e', 'i', 'o', 'u'].contains c

/-- Whether a word, read from its end, ends in s, x, z, ch or sh. -/
def endsSibilant : List Char → Bool
  | 's' :: _ => true
  | 'x' :: _ => true
  | 'z' :: _ => true
  | 'h' :: 'c' :: _ => true
  | 'h' :: 's' :: _ => true
  | _ => false

/-- The plural of a word, both read from their ends. -/
def pluralReversed : List Char → List Char
  | [] => []
  | 'y' :: c :: stem => if isVowel c then 's' :: 'y' :: c :: stem else 's' :: 'e' :: 'i' :: c :: stem
  | word => if endsSibilant word then 's' :: 'e' :: word else 's' :: word

/-- The plural of a word; nothing for nothing. -/
def plural (word : String) : String :=
  String.ofList (pluralReversed word.toList.reverse).reverse

/-- The name of the resource type of a noun. -/
def typeOf (noun : String) : String :=
  plural (Text.lowercase noun)

/-- The name of the relation of a field: its first character in lower case, the rest as it is. -/
def relationOf (field : String) : String :=
  match field.toList with
  | [] => ""
  | c :: rest => String.ofList (Text.lowerChar c ++ rest)

end ResourceApi.Naming
