/-!
# Code point order on texts

Names are listed in code point order wherever an order shows: in documents, in parameter listings and in the
list of registered types. `before` is that strict order; it is irreflexive, transitive and total, which is what
a sorted collection needs of it.
-/

namespace ResourceApi.Text

/-- The strict lexicographic order on lists of characters, compared by code point; a proper beginning comes first. -/
def charsBefore : List Char → List Char → Bool
  | _, [] => false
  | [], _ :: _ => true
  | a :: as, b :: bs => decide (a.toNat < b.toNat) || (a == b && charsBefore as bs)

theorem charsBefore_irrefl (a : List Char) : charsBefore a a = false := by
  induction a with
  | nil => rfl
  | cons x xs ih => simp [charsBefore, ih]

theorem charsBefore_trans {a b c : List Char} (hab : charsBefore a b) (hbc : charsBefore b c) :
    charsBefore a c := by
  induction a generalizing b c with
  | nil =>
    cases c with
    | nil => cases b <;> simp [charsBefore] at hbc
    | cons => rfl
  | cons x xs ih =>
    cases b with
    | nil => simp [charsBefore] at hab
    | cons y ys =>
      cases c with
      | nil => simp [charsBefore] at hbc
      | cons z zs =>
        simp only [charsBefore, Bool.or_eq_true, decide_eq_true_eq, Bool.and_eq_true, beq_iff_eq] at *
        rcases hab with hab | ⟨rfl, hab⟩
        · rcases hbc with hbc | ⟨rfl, _⟩
          · exact .inl (by omega)
          · exact .inl hab
        · rcases hbc with hbc | ⟨rfl, hbc⟩
          · exact .inl hbc
          · exact .inr ⟨rfl, ih hab hbc⟩

theorem charsBefore_trichotomy (a b : List Char) : charsBefore a b ∨ a = b ∨ charsBefore b a := by
  induction a generalizing b with
  | nil => cases b <;> simp [charsBefore]
  | cons x xs ih =>
    cases b with
    | nil => simp [charsBefore]
    | cons y ys =>
      simp only [charsBefore, Bool.or_eq_true, decide_eq_true_eq, Bool.and_eq_true, beq_iff_eq, List.cons.injEq]
      rcases Nat.lt_trichotomy x.toNat y.toNat with h | h | h
      · exact .inl (.inl h)
      · obtain rfl := Char.toNat_inj.1 h
        rcases ih ys with h | h | h
        · exact .inl (.inr ⟨rfl, h⟩)
        · exact .inr (.inl ⟨rfl, h⟩)
        · exact .inr (.inr (.inr ⟨rfl, h⟩))
      · exact .inr (.inr (.inl h))

/-- The strict code point order on texts. -/
def before (a b : String) : Bool :=
  charsBefore a.toList b.toList

theorem before_irrefl (a : String) : before a a = false :=
  charsBefore_irrefl _

theorem before_trans {a b c : String} (hab : before a b) (hbc : before b c) : before a c :=
  charsBefore_trans hab hbc

theorem before_trichotomy (a b : String) : before a b ∨ a = b ∨ before b a := by
  simpa [before, String.toList_inj] using charsBefore_trichotomy a.toList b.toList

theorem before_asymm {a b : String} (h : before a b) : before b a = false := by
  cases hba : before b a with
  | false => rfl
  | true => simpa [before_irrefl] using before_trans h hba

theorem ne_of_before {a b : String} (h : before a b) : a ≠ b := by
  rintro rfl
  simp [before_irrefl] at h

end ResourceApi.Text
