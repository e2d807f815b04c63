import ResourceApi.Proofs.Registry.Registration

/-!
# Words of one plural

A type is named by the plural of its noun, so two nouns of which the plurals are the same name one type. Two words have one
plural if and only if they are one word, or one of them ends in a sibilant and the other has an e more, or one ends in a
consonant and y and the other in ie in its place (`Naming.plural_eq_iff`). Only such nouns take each other's place in a registry
(`types_clash_iff`).
-/

namespace ResourceApi

namespace Naming

/-- A word ends in a sibilant, as it is written. -/
def EndsInSibilant (word : String) : Prop :=
  ∃ ending ∈ ["s", "x", "z", "ch", "sh"], ∃ stem, word = stem ++ ending

/-- A word has a last character, which is none of the five vowels. -/
def EndsInConsonant (word : String) : Prop :=
  ∃ stem c, word = stem ++ String.singleton c ∧ c ∉ ['a', 'e', 'i', 'o', 'u']

/-- A word and a longer one that take one plural. -/
inductive Merges : String → String → Prop
  | sibilant {word : String} (ends : EndsInSibilant word) : Merges word (word ++ "e")
  | consonant {stem : String} (ends : EndsInConsonant stem) : Merges (stem ++ "y") (stem ++ "ie")

/-- Two words are one, or merge in the plural. -/
def SamePlural (word other : String) : Prop :=
  word = other ∨ Merges word other ∨ Merges other word

/-! ## Words read from their ends -/

/-- The ways in which words take their plurals, both read from their ends. -/
inductive Declines : List Char → List Char → Prop
  | nothing : Declines [] []
  | ies {c : Char} {stem : List Char} (consonant : isVowel c = false) :
    Declines ('y' :: c :: stem) ('s' :: 'e' :: 'i' :: c :: stem)
  | es {word : List Char} (sibilant : endsSibilant word = true) : Declines word ('s' :: 'e' :: word)
  | s {word : List Char} (plain : endsSibilant word = false) : Declines word ('s' :: word)

/-- Words that take one plural, read from their ends. -/
inductive MergesReversed : List Char → List Char → Prop
  | sibilant {word : List Char} (ends : endsSibilant word = true) : MergesReversed word ('e' :: word)
  | consonant {c : Char} {stem : List Char} (ends : isVowel c = false) :
    MergesReversed ('y' :: c :: stem) ('e' :: 'i' :: c :: stem)

/-- The plural of a word is one of the forms a word declines to. -/
theorem declines_pluralReversed (word : List Char) : Declines word (pluralReversed word) := by
  unfold pluralReversed
  split
  · exact .nothing
  · next c stem =>
    cases vowel : isVowel c with
    | true => exact .s rfl
    | false => exact .ies vowel
  · cases sibilant : endsSibilant word with
    | true => exact .es sibilant
    | false => exact .s sibilant

theorem pluralReversed_of_sibilant {word : List Char} (h : endsSibilant word = true) :
    pluralReversed word = 's' :: 'e' :: word := by
  unfold pluralReversed
  split
  · cases h
  · cases h
  · exact if_pos h

/-- Words that merge have one plural. -/
theorem MergesReversed.pluralReversed_eq {word other : List Char} (h : MergesReversed word other) :
    pluralReversed word = pluralReversed other := by
  cases h with
  | sibilant ends => exact pluralReversed_of_sibilant ends
  | consonant ends => simp [pluralReversed, endsSibilant, ends]

/-- Two words that take one plural in the same way are the same. Two ways come to one plural only where the e or ie that the one
adds stands at the end of the other word. -/
theorem pluralReversed_eq_iff {word other : List Char} :
    pluralReversed word = pluralReversed other ↔ word = other ∨ MergesReversed word other ∨ MergesReversed other word := by
  constructor
  · intro same
    have own := declines_pluralReversed word
    have others := declines_pluralReversed other
    rw [← same] at others
    generalize pluralReversed word = taken at own others
    -- A word that took es for the plural of one that takes ies would end in i, and i is no sibilant.
    cases own with
    | nothing => cases others; exact .inl rfl
    | ies consonant =>
      cases others with
      | ies => exact .inl rfl
      | es sibilant => cases sibilant
      | s => exact .inr (.inl (.consonant consonant))
    | es sibilant =>
      cases others with
      | ies => cases sibilant
      | es => exact .inl rfl
      | s => exact .inr (.inl (.sibilant sibilant))
    | s plain =>
      cases others with
      | ies consonant => exact .inr (.inr (.consonant consonant))
      | es sibilant => exact .inr (.inr (.sibilant sibilant))
      | s => exact .inl rfl
  · rintro (rfl | merges | merges)
    · rfl
    · exact merges.pluralReversed_eq
    · exact merges.pluralReversed_eq.symm

/-! ## Words as they are written -/

theorem isVowel_eq_false_iff {c : Char} : isVowel c = false ↔ c ∉ ['a', 'e', 'i', 'o', 'u'] := by
  simp [isVowel]

/-- A word has an ending if it begins with the ending when both are read from their ends. -/
theorem exists_stem_iff {word ending : String} :
    (∃ stem, word = stem ++ ending) ↔ ∃ rest, word.toList.reverse = ending.toList.reverse ++ rest := by
  constructor
  · rintro ⟨stem, rfl⟩
    exact ⟨stem.toList.reverse, by simp⟩
  · rintro ⟨rest, h⟩
    refine ⟨String.ofList rest.reverse, String.toList_inj.1 ?_⟩
    simpa using congrArg List.reverse h

theorem endsSibilant_eq_true_iff {word : List Char} :
    endsSibilant word = true ↔ ∃ ending ∈ ["s", "x", "z", "ch", "sh"], ∃ rest, word = ending.toList.reverse ++ rest := by
  constructor
  · intro h
    unfold endsSibilant at h
    split at h
    · exact ⟨"s", by simp, _, rfl⟩
    · exact ⟨"x", by simp, _, rfl⟩
    · exact ⟨"z", by simp, _, rfl⟩
    · exact ⟨"ch", by simp, _, rfl⟩
    · exact ⟨"sh", by simp, _, rfl⟩
    · cases h
  · rintro ⟨ending, among, rest, rfl⟩
    simp only [List.mem_cons, List.not_mem_nil, or_false] at among
    rcases among with rfl | rfl | rfl | rfl | rfl <;> rfl

/-- The ending the rule looks for on the reversed word is a sibilant ending of the word itself. -/
theorem endsSibilant_iff {word : String} : endsSibilant word.toList.reverse = true ↔ EndsInSibilant word := by
  simp only [endsSibilant_eq_true_iff, ← exists_stem_iff, EndsInSibilant]

/-- Reversed words merge exactly where the words themselves do. -/
theorem mergesReversed_iff {word other : String} :
    MergesReversed word.toList.reverse other.toList.reverse ↔ Merges word other := by
  have written {s : String} {chars : List Char} (h : s.toList.reverse = chars) : s = String.ofList chars.reverse := by
    rw [← h, List.reverse_reverse, String.ofList_toList]
  constructor
  · intro merges
    generalize read : word.toList.reverse = reversed, read' : other.toList.reverse = reversed' at merges
    cases merges with
    | sibilant ends =>
      obtain rfl : other = word ++ "e" := by
        rw [written read', ← read, ← String.toList_inj]
        simp
      exact .sibilant (endsSibilant_iff.1 (read ▸ ends))
    | @consonant c stem ends =>
      let before := String.ofList stem.reverse ++ String.singleton c
      obtain rfl : word = before ++ "y" := by
        rw [written read, ← String.toList_inj]
        simp [before]
      obtain rfl : other = before ++ "ie" := by
        rw [written read', ← String.toList_inj]
        simp [before]
      exact .consonant ⟨_, c, rfl, isVowel_eq_false_iff.1 ends⟩
  · intro merges
    cases merges with
    | sibilant ends => simpa using MergesReversed.sibilant (endsSibilant_iff.2 ends)
    | consonant ends =>
      obtain ⟨stem, c, rfl, consonant⟩ := ends
      simpa using MergesReversed.consonant (isVowel_eq_false_iff.2 consonant)

/-- Only the same words and those that merge have the same plural. -/
theorem plural_eq_iff {word other : String} : plural word = plural other ↔ SamePlural word other := by
  have read : plural word = plural other ↔
      pluralReversed word.toList.reverse = pluralReversed other.toList.reverse := by
    rw [plural, plural, ← String.toList_inj, String.toList_ofList, String.toList_ofList, List.reverse_inj]
  rw [read, pluralReversed_eq_iff, List.reverse_inj, String.toList_inj, mergesReversed_iff, mergesReversed_iff]
  rfl

end Naming

/-- Words take the same plural if and only if they are the same, or one has an e more than the other, which ends in a sibilant, or
one ends in a consonant and y and the other in ie for the y. So in a registry of which each resource is of the type of a noun, a
resource is found under the type of another noun if and only if the nouns, in lower case, are two such words, and a resource of
the type of another noun is refused if and only if it is such a word with one of the nouns. -/
theorem types_clash_iff :
    (∀ word other, Naming.plural word = Naming.plural other ↔ Naming.SamePlural word other) ∧
      ∀ {σ : Type} (registry : Registry σ) (noun : Resource σ → String),
        (∀ r ∈ registry.resources, r.typeName = Naming.typeOf (noun r)) → ∀ other,
          (∀ r ∈ registry.resources, registry.lookup? (Naming.typeOf other) = some r ↔
            Naming.SamePlural (Text.lowercase (noun r)) (Text.lowercase other)) ∧
          ∀ r', r'.typeName = Naming.typeOf other →
            ((∃ refusal, registry.register r' = .error refusal) ↔
              ∃ r ∈ registry.resources, Naming.SamePlural (Text.lowercase (noun r)) (Text.lowercase other)) := by
  refine ⟨fun word other => Naming.plural_eq_iff, fun {σ} registry noun named other => ?_⟩
  have same (r : Resource σ) (held : r ∈ registry.resources) :
      r.typeName = Naming.typeOf other ↔ Naming.SamePlural (Text.lowercase (noun r)) (Text.lowercase other) := by
    rw [named r held]
    exact Naming.plural_eq_iff
  constructor
  · intro r held
    rw [Registry.lookup?, find?_eq_some_iff_of_nodup registry.distinct, same r held, and_iff_right held]
  · intro r' type
    have refused : (∃ refusal, registry.register r' = .error refusal) ↔ registry.isTaken r'.typeName = true := by
      simp [Registry.register_eq_error_iff]
    rw [refused, registry.isTaken_iff, type]
    constructor
    · rintro ⟨r, held, taken⟩
      exact ⟨r, held, (same r held).1 taken⟩
    · rintro ⟨r, held, clash⟩
      exact ⟨r, held, (same r held).2 clash⟩

namespace Workshop

/-- A resource of the type of a noun, of which there are no entities. -/
def things (noun : String) : Resource Unit where
  schema := .ofNoun noun
  source := .ofTable []

/-- Axes and pixies. -/
def registry : Registry Unit where
  resources := [things "Axe", things "Pixy"]
  distinct := (by decide +kernel : ["axes", "pixies"].Nodup)

/-- The nouns of which the registered types are. -/
def noun (r : Resource Unit) : String :=
  if r.typeName = "axes" then "Axe" else "Pixy"

end Workshop

/-- Axes are found as those of an ax, and pixies as those of a pixie. Neither kind can be registered beside the other. -/
theorem axes_and_pixies_clash :
    let registry := Workshop.registry
    (∀ r ∈ registry.resources, r.typeName = Naming.typeOf (Workshop.noun r)) ∧
      registry.lookup? (Naming.typeOf "AX") = some (Workshop.things "Axe") ∧
      ∃ refusal, registry.register (Workshop.things "Pixie") = .error refusal := by
  intro registry
  have named : ∀ r ∈ registry.resources, r.typeName = Naming.typeOf (Workshop.noun r) := by decide +kernel
  have axes : Naming.SamePlural (Text.lowercase "Axe") (Text.lowercase "AX") := by
    rw [show Text.lowercase "Axe" = "ax" ++ "e" by decide +kernel, show Text.lowercase "AX" = "ax" by decide +kernel]
    exact .inr (.inr (.sibilant ⟨"x", by decide, "a", by decide⟩))
  have pixies : Naming.SamePlural (Text.lowercase "Pixy") (Text.lowercase "Pixie") := by
    rw [show Text.lowercase "Pixy" = "pix" ++ "y" by decide +kernel,
      show Text.lowercase "Pixie" = "pix" ++ "ie" by decide +kernel]
    exact .inr (.inl (.consonant ⟨"pi", 'x', by decide, by decide⟩))
  have axe : Workshop.things "Axe" ∈ registry.resources := .head _
  have pixy : Workshop.things "Pixy" ∈ registry.resources := .tail _ (.head _)
  have clash := types_clash_iff.2 registry Workshop.noun named
  exact ⟨named, ((clash "AX").1 _ axe).2 axes, ((clash "Pixie").2 (Workshop.things "Pixie") rfl).2 ⟨_, pixy, pixies⟩⟩

end ResourceApi
