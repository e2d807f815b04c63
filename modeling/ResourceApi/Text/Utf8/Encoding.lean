import ResourceApi.Text.Utf8

/-!
# What was encoded is read back

Every character is encoded by a lead byte that announces its continuation bytes, and none of the ranges that keep
out overlong forms and surrogates keeps out such an encoding (`front_of_encode`). So strict and lenient reading both
give back a text that was encoded.
-/

namespace ResourceApi.Utf8

theorem toNat_ofNat_of_lt {n : Nat} (h : n < 256) : (UInt8.ofNat n).toNat = n := by
  simpa using Nat.mod_eq_of_lt h

theorem eq_ofNat_iff {n : Nat} {b : UInt8} (h : n < 256) : UInt8.ofNat n = b ↔ n = b.toNat := by
  rw [← UInt8.toNat_inj, toNat_ofNat_of_lt h]

/-- A continuation byte that lies in the allowed range adds its six bits. -/
theorem follow_tail {owed : Nat} {low high : UInt8} {value taken t : Nat} {rest : Bytes} (ht : t < 64)
    (hlow : low.toNat ≤ 128 + t) (hhigh : 128 + t ≤ high.toNat) :
    follow (owed + 1) low high value taken (UInt8.ofNat (t + 128) :: rest) =
      follow owed 0x80 0xBF (value * 64 + t) (taken + 1) rest := by
  have hb : (UInt8.ofNat (t + 128)).toNat = t + 128 := toNat_ofNat_of_lt (by omega)
  rw [follow, if_pos ⟨UInt8.le_iff_toNat_le.2 (by omega), UInt8.le_iff_toNat_le.2 (by omega)⟩, hb]
  congr 2
  omega

/-- The bytes of a character are read as that character, and as no more than their number. -/
theorem front_of_encode (c : Char) (rest : Bytes) :
    ∃ lead tail, String.utf8EncodeChar c = lead :: tail ∧ front lead (tail ++ rest) = .char c tail.length := by
  have hv : c.toNat < 0xD800 ∨ 0xDFFF < c.toNat ∧ c.toNat < 0x110000 := c.valid
  have hv' : c.val.toNat = c.toNat := rfl
  have back : ∀ v, v = c.toNat → Char.ofNat v = c := by rintro v rfl; exact Char.ofNat_toNat c
  simp only [String.utf8EncodeChar, hv']
  generalize c.toNat = v at hv back
  split
  · refine ⟨_, _, rfl, ?_⟩
    rw [front, if_pos (UInt8.lt_iff_toNat_lt.2 ?_), toNat_ofNat_of_lt (by omega), back v rfl]
    · rfl
    · rw [toNat_ofNat_of_lt (by omega)]
      exact Nat.lt_of_le_of_lt (by assumption) (by decide)
  split
  · refine ⟨_, _, rfl, ?_⟩
    have hn : (UInt8.ofNat (v / 64 % 32 + 192)).toNat = v / 64 + 192 := by rw [toNat_ofNat_of_lt] <;> omega
    simp only [front, UInt8.lt_iff_toNat_lt, hn]
    rw [if_neg (by simp), if_neg (by simp; omega), if_pos (by simp; omega), List.cons_append,
      follow_tail (by omega) (by simp) (by simp; omega), follow]
    simp only [List.length_cons, List.length_nil]
    rw [back]
    omega
  split
  · refine ⟨_, _, rfl, ?_⟩
    have hn : (UInt8.ofNat (v / 4096 % 16 + 224)).toNat = v / 4096 + 224 := by rw [toNat_ofNat_of_lt] <;> omega
    simp only [front, UInt8.lt_iff_toNat_lt, hn, eq_ofNat_iff (show v / 4096 % 16 + 224 < 256 by omega)]
    rw [if_neg (by simp), if_neg (by simp), if_neg (by simp), if_pos (by simp; omega), List.cons_append,
      follow_tail (by omega) ?_ ?_, List.cons_append, follow_tail (by omega) (by simp) (by simp; omega), follow]
    · simp only [List.length_cons, List.length_nil]
      rw [back]
      omega
    · split
      · next h =>
        simp at h ⊢
        omega
      · simp
    · split
      · next h =>
        simp at h ⊢
        omega
      · simp
        omega
  · refine ⟨_, _, rfl, ?_⟩
    have hn : (UInt8.ofNat (v / 262144 % 8 + 240)).toNat = v / 262144 + 240 := by rw [toNat_ofNat_of_lt] <;> omega
    simp only [front, UInt8.lt_iff_toNat_lt, hn, eq_ofNat_iff (show v / 262144 % 8 + 240 < 256 by omega)]
    rw [if_neg (by simp), if_neg (by simp), if_neg (by simp), if_neg (by simp), if_pos (by simp; omega),
      List.cons_append, follow_tail (by omega) ?_ ?_, List.cons_append,
      follow_tail (by omega) (by simp) (by simp; omega), List.cons_append,
      follow_tail (by omega) (by simp) (by simp; omega), follow]
    · simp only [List.length_cons, List.length_nil]
      rw [back]
      omega
    · split
      · next h =>
        simp at h ⊢
        omega
      · simp
    · split
      · next h =>
        simp at h ⊢
        omega
      · simp
        omega

theorem symbolsAfter_append (taken rest : Bytes) :
    symbolsAfter taken.length (taken ++ rest) = symbolsAfter 0 rest := by
  induction taken with
  | nil => rfl
  | cons _ _ ih => exact ih

/-- The bytes of a text have no gaps. -/
theorem symbols_encodeChars (s : List Char) : symbols (encodeChars s) = s.map some := by
  induction s with
  | nil => rfl
  | cons c s ih =>
    obtain ⟨lead, tail, he, hf⟩ := front_of_encode c (encodeChars s)
    simp only [symbols, encodeChars, List.flatMap_cons, List.map_cons] at *
    rw [he, List.cons_append, symbolsAfter, hf]
    simp only
    rw [symbolsAfter_append, ih]

/-- Strict reading gives back what was encoded. -/
theorem decodeChars?_encodeChars (s : List Char) : decodeChars? (encodeChars s) = some s := by
  rw [decodeChars?, symbols_encodeChars]
  induction s with
  | nil => rfl
  | cons c s ih => simp [allPresent, ih]

/-- Lenient reading gives back what was encoded. -/
theorem decodeLossy_encode (s : String) : decodeLossy (encode s) = s := by
  rw [decodeLossy, encode, symbols_encodeChars]
  simp [Function.comp_def]

/-- No two texts have the same bytes. -/
theorem encode_injective : Function.Injective encode :=
  Function.LeftInverse.injective decodeLossy_encode

end ResourceApi.Utf8
