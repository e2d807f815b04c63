import ResourceApi.Text.Percent
import ResourceApi.Text.Utf8.Encoding

/-!
# What decoding changes

Decoding puts a byte in the place of each escape and leaves all else as it is. So a text either is decoded to itself or
comes out shorter (`decode_eq_or_shorter`), but never empty (`decode_ne_empty`), and a text without percent signs is decoded to
itself (`decode_of_notMem`).
-/

namespace ResourceApi

/-! ## Bytes of characters -/

namespace Utf8

/-- A number from 128 on that is a byte stays what it is. -/
theorem le_toNat_ofNat {n : Nat} (low : 128 ≤ n) (high : n < 256) : 128 ≤ (UInt8.ofNat n).toNat := by
  rwa [toNat_ofNat_of_lt high]

/-- A character is one byte below 128, or bytes of which none is below 128. -/
theorem encodeChar_cases (c : Char) :
    (∃ b : UInt8, String.utf8EncodeChar c = [b] ∧ b.toNat = c.toNat ∧ c.toNat < 128) ∨
      ∃ lead tail, String.utf8EncodeChar c = lead :: tail ∧ ∀ b ∈ lead :: tail, 128 ≤ b.toNat := by
  have hv : c.val.toNat = c.toNat := rfl
  simp only [String.utf8EncodeChar, hv]
  generalize c.toNat = v
  split
  · exact .inl ⟨_, rfl, toNat_ofNat_of_lt (by omega), by omega⟩
  split
  · refine .inr ⟨_, _, rfl, ?_⟩
    simp only [List.forall_mem_cons]
    exact ⟨le_toNat_ofNat (by omega) (by omega), le_toNat_ofNat (by omega) (by omega), nofun⟩
  split
  · refine .inr ⟨_, _, rfl, ?_⟩
    simp only [List.forall_mem_cons]
    exact ⟨le_toNat_ofNat (by omega) (by omega), le_toNat_ofNat (by omega) (by omega),
      le_toNat_ofNat (by omega) (by omega), nofun⟩
  · refine .inr ⟨_, _, rfl, ?_⟩
    simp only [List.forall_mem_cons]
    exact ⟨le_toNat_ofNat (by omega) (by omega), le_toNat_ofNat (by omega) (by omega),
      le_toNat_ofNat (by omega) (by omega), le_toNat_ofNat (by omega) (by omega), nofun⟩

/-- A byte below 128 stands for one character only. -/
theorem notMem_encodeChar {b : UInt8} (small : b.toNat < 128) {c : Char} (other : c.toNat ≠ b.toNat) :
    b ∉ String.utf8EncodeChar c := by
  intro held
  rcases encodeChar_cases c with ⟨own, single, same, -⟩ | ⟨lead, tail, several, large⟩
  · rw [single, List.mem_singleton] at held
    exact other (held ▸ same.symm)
  · rw [several] at held
    exact absurd (large b held) (Nat.not_le_of_lt small)

/-- A byte below 128 is not among those of a text without its character. -/
theorem notMem_encode {b : UInt8} (small : b.toNat < 128) {c : Char} (stands : c.toNat = b.toNat) {s : String}
    (free : c ∉ s.toList) : b ∉ encode s := by
  intro held
  obtain ⟨other, among, own⟩ := List.mem_flatMap.1 held
  refine notMem_encodeChar small (fun same => free ?_) own
  exact Char.toNat_inj.1 (same.trans stands.symm) ▸ among

/-- The bytes of two texts stand one after the other. -/
theorem encode_append (first later : String) : encode (first ++ later) = encode first ++ encode later := by
  rw [encode, String.toList_append, encodeChars_append]
  rfl

/-- A byte below 128 at the front of some characters is the first of them. -/
theorem encodeChars_eq_cons {s : List Char} {b : UInt8} {rest : Bytes} (h : encodeChars s = b :: rest)
    (small : b.toNat < 128) : ∃ c s', s = c :: s' ∧ encodeChars s' = rest := by
  cases s with
  | nil => cases h
  | cons c s' =>
    refine ⟨c, s', rfl, ?_⟩
    have joined : encodeChars (c :: s') = String.utf8EncodeChar c ++ encodeChars s' := List.flatMap_cons
    rw [joined] at h
    rcases encodeChar_cases c with ⟨own, single, -, -⟩ | ⟨lead, tail, several, large⟩
    · rw [single] at h
      exact (List.cons.inj h).2
    · rw [several] at h
      have least := large lead List.mem_cons_self
      rw [(List.cons.inj h).1] at least
      omega

/-! ## Symbols of bytes -/

/-- A byte that can only continue a character. -/
def Continues (b : UInt8) : Prop :=
  128 ≤ b.toNat ∧ b.toNat < 192

/-- The number of bytes that a character or a gap takes beyond its first. -/
def Symbol.more : Symbol → Nat
  | .char _ more => more
  | .gap more => more

/-- The bytes that are taken for those that a lead byte announces are continuation bytes at the front of the rest. -/
theorem more_follow {low high : UInt8} (hlow : 128 ≤ low.toNat) (hhigh : high.toNat < 192) (owed value taken : Nat)
    (rest : Bytes) :
    ∃ own later, rest = own ++ later ∧ (follow owed low high value taken rest).more = taken + own.length ∧
      ∀ b ∈ own, Continues b := by
  -- Only the first byte that is owed has bounds of its own; those after it are bound as all continuation bytes are.
  induction owed generalizing low high value taken rest with
  | zero => exact ⟨[], rest, rfl, rfl, nofun⟩
  | succ owed ih =>
    cases rest with
    | nil => exact ⟨[], [], rfl, rfl, nofun⟩
    | cons b rest =>
      rw [follow]
      split
      · next within =>
        obtain ⟨own, later, rfl, more, all⟩ :=
          @ih 0x80 0xBF (by decide) (by decide) (value * 64 + b.toNat % 64) (taken + 1) rest
        have above := UInt8.le_iff_toNat_le.1 within.1
        have below := UInt8.le_iff_toNat_le.1 within.2
        refine ⟨b :: own, later, rfl, ?_, List.forall_mem_cons.2 ⟨⟨by omega, by omega⟩, all⟩⟩
        rw [more, List.length_cons]
        omega
      · exact ⟨[], b :: rest, rfl, rfl, nofun⟩

/-- What a character or a gap takes beyond its first byte are continuation bytes. -/
theorem more_front (lead : UInt8) (rest : Bytes) :
    ∃ own later, rest = own ++ later ∧ (front lead rest).more = own.length ∧ ∀ b ∈ own, Continues b := by
  have none : ∃ own later, rest = own ++ later ∧ 0 = own.length ∧ ∀ b ∈ own, Continues b := ⟨[], rest, rfl, rfl, nofun⟩
  have some {low high : UInt8} (hlow : 128 ≤ low.toNat) (hhigh : high.toNat < 192) (owed value : Nat) :
      ∃ own later, rest = own ++ later ∧ (follow owed low high value 0 rest).more = own.length ∧
        ∀ b ∈ own, Continues b := by
    obtain ⟨own, later, joined, more, all⟩ := more_follow hlow hhigh owed value 0 rest
    exact ⟨own, later, joined, more.trans (Nat.zero_add _), all⟩
  unfold front
  split
  · exact none
  split
  · exact none
  split
  · exact some (by decide) (by decide) 1 _
  split
  · exact some (by split <;> decide) (by split <;> decide) 2 _
  split
  · exact some (by split <;> decide) (by split <;> decide) 3 _
  · exact none

/-- Reading goes on after what a lead byte takes with it, which is one symbol. -/
theorem length_symbols_cons (lead : UInt8) (rest : Bytes) :
    (symbols (lead :: rest)).length = (symbolsAfter (front lead rest).more rest).length + 1 := by
  rw [symbols, symbolsAfter]
  cases front lead rest <;> rfl

/-- A continuation byte that continues nothing is a gap. -/
theorem symbols_of_continues {b : UInt8} (h : Continues b) (rest : Bytes) : symbols (b :: rest) = none :: symbols rest := by
  obtain ⟨low, high⟩ := h
  have alone : front b rest = .gap 0 := by
    unfold front
    rw [if_neg (by simp [UInt8.lt_iff_toNat_lt]; omega), if_pos (UInt8.lt_iff_toNat_lt.2 (by simp; omega))]
  rw [symbols, symbolsAfter, alone]
  rfl

/-- Continuation bytes that continue nothing are one symbol each. -/
theorem length_symbols_append {own : Bytes} (h : ∀ b ∈ own, Continues b) (later : Bytes) :
    (symbols (own ++ later)).length = own.length + (symbols later).length := by
  induction own with
  | nil => simp
  | cons b own ih =>
    rw [List.forall_mem_cons] at h
    rw [List.cons_append, symbols_of_continues h.1, List.length_cons, ih h.2, List.length_cons]
    omega

/-- A byte more makes at most one symbol more: what it takes up with it would have been gaps. -/
theorem length_symbols_cons_le (b : UInt8) (rest : Bytes) : (symbols (b :: rest)).length ≤ (symbols rest).length + 1 := by
  obtain ⟨own, later, rfl, more, all⟩ := more_front b rest
  rw [length_symbols_cons, more, symbolsAfter_append, length_symbols_append all, symbols]
  omega

/-- The bytes of a character are read as that character, whatever comes after them. -/
theorem symbols_encodeChar_append (c : Char) (rest : Bytes) :
    symbols (String.utf8EncodeChar c ++ rest) = some c :: symbols rest := by
  obtain ⟨lead, tail, encoded, read⟩ := front_of_encode c rest
  rw [encoded, List.cons_append, symbols, symbolsAfter, read]
  exact congrArg (some c :: ·) (symbolsAfter_append tail rest)

end Utf8

/-! ## Decoding -/

namespace Percent

open Utf8

/-- A byte that is no percent sign stays. -/
theorem decodeBytes_cons_of_ne {b : UInt8} (h : b ≠ mark) (rest : Bytes) :
    decodeBytes (b :: rest) = b :: decodeBytes rest := by
  match rest with
  | [] => rfl
  | [_] => rfl
  | _ :: _ :: _ => simp only [decodeBytes, if_neg h]

/-- Bytes without a percent sign stay, whatever comes after them. -/
theorem decodeBytes_append_of_notMem {bytes : Bytes} (h : mark ∉ bytes) (rest : Bytes) :
    decodeBytes (bytes ++ rest) = bytes ++ decodeBytes rest := by
  induction bytes with
  | nil => rfl
  | cons b bytes ih =>
    rw [List.mem_cons, not_or] at h
    rw [List.cons_append, decodeBytes_cons_of_ne (Ne.symm h.1), ih h.2, List.cons_append]

/-- No character but the percent sign is written with the byte of it. -/
theorem mark_notMem_encodeChar {c : Char} (h : c ≠ '%') : mark ∉ String.utf8EncodeChar c :=
  notMem_encodeChar (by decide) fun same => h (Char.toNat_inj.1 same)

/-- A digit is written with a byte below 128. -/
theorem lt_of_digitValue? (b : UInt8) {value : Nat} (h : Text.digitValue? 16 (Char.ofNat b.toNat) = some value) :
    b.toNat < 128 := by
  have all : ∀ n : Nat, n < 256 → (Text.digitValue? 16 (Char.ofNat n)).isSome = true → n < 128 := by
    decide +kernel
  exact all b.toNat b.toNat_lt_size (by rw [h]; rfl)

/-- The digits of an escape are bytes below 128. -/
theorem lt_of_hexPair? {high low byte : UInt8} (h : hexPair? high low = some byte) :
    high.toNat < 128 ∧ low.toNat < 128 := by
  unfold hexPair? at h
  split at h
  · next first second => exact ⟨lt_of_digitValue? high first, lt_of_digitValue? low second⟩
  · cases h

/-- At a percent sign there is an escape, which makes three characters one byte, or the percent sign stays. -/
theorem decodeBytes_mark_cases (s : List Char) :
    (∃ high low rest byte, s = high :: low :: rest ∧
        decodeBytes (encodeChars ('%' :: s)) = byte :: decodeBytes (encodeChars rest)) ∨
      decodeBytes (encodeChars ('%' :: s)) = mark :: decodeBytes (encodeChars s) := by
  have front : encodeChars ('%' :: s) = mark :: encodeChars s := List.flatMap_cons
  rw [front]
  match bytes : encodeChars s with
  | [] => exact .inr rfl
  | [_] => exact .inr rfl
  | high :: low :: later =>
    cases pair : hexPair? high low with
    | none =>
      refine .inr ?_
      simp only [decodeBytes, if_true, pair]
    | some byte =>
      -- Digits are written with small bytes, so the two bytes are two characters.
      obtain ⟨smallHigh, smallLow⟩ := lt_of_hexPair? pair
      obtain ⟨first, s', rfl, bytes'⟩ := encodeChars_eq_cons bytes smallHigh
      obtain ⟨second, rest, rfl, bytes''⟩ := encodeChars_eq_cons bytes' smallLow
      refine .inl ⟨first, second, rest, byte, rfl, ?_⟩
      simp only [decodeBytes, if_true, pair, bytes'']

/-- The symbols that decoding leaves are the characters of the text, or fewer. -/
theorem symbols_decodeBytes (s : List Char) :
    symbols (decodeBytes (encodeChars s)) = s.map some ∨ (symbols (decodeBytes (encodeChars s))).length < s.length := by
  match s with
  | [] => exact .inl rfl
  | c :: s =>
    -- A character that stays is a symbol more on both sides.
    have stays (h : decodeBytes (encodeChars (c :: s)) = String.utf8EncodeChar c ++ decodeBytes (encodeChars s)) :
        symbols (decodeBytes (encodeChars (c :: s))) = (c :: s).map some ∨
          (symbols (decodeBytes (encodeChars (c :: s)))).length < (c :: s).length := by
      rw [h, symbols_encodeChar_append]
      rcases symbols_decodeBytes s with same | shorter
      · exact .inl (by rw [same, List.map_cons])
      · exact .inr (Nat.succ_lt_succ shorter)
    by_cases percent : c = '%'
    · subst percent
      rcases decodeBytes_mark_cases s with ⟨high, low, rest, byte, rfl, escaped⟩ | plain
      · refine .inr ?_
        have fewer : (symbols (decodeBytes (encodeChars rest))).length ≤ rest.length := by
          rcases symbols_decodeBytes rest with same | shorter
          · exact Nat.le_of_eq (by rw [same, List.length_map])
          · exact Nat.le_of_lt shorter
        have more := length_symbols_cons_le byte (decodeBytes (encodeChars rest))
        rw [escaped]
        simp only [List.length_cons]
        omega
      · exact stays plain
    · refine stays ?_
      have front : encodeChars (c :: s) = String.utf8EncodeChar c ++ encodeChars s := List.flatMap_cons
      rw [front, decodeBytes_append_of_notMem (mark_notMem_encodeChar percent)]
termination_by s.length

/-- A text is decoded to itself or comes out shorter. -/
theorem decode_eq_or_shorter (s : String) : decode s = s ∨ (decode s).length < s.length := by
  unfold decode decodeLossy
  rcases symbols_decodeBytes s.toList with same | shorter
  · refine .inl ?_
    rw [Utf8.encode, same, List.map_map]
    simp [Function.comp_def]
  · refine .inr ?_
    rw [← String.length_toList (s := s), Utf8.encode, ← String.length_toList, String.toList_ofList, List.length_map]
    exact shorter

/-- Decoding makes no text longer. -/
theorem length_decode_le (s : String) : (decode s).length ≤ s.length := by
  rcases decode_eq_or_shorter s with same | shorter
  · exact Nat.le_of_eq (congrArg String.length same)
  · exact Nat.le_of_lt shorter

/-- A text without percent signs is decoded to itself. -/
theorem decode_of_notMem {s : String} (h : '%' ∉ s.toList) : decode s = s := by
  have stays (chars : List Char) (h : '%' ∉ chars) : decodeBytes (encodeChars chars) = encodeChars chars := by
    induction chars with
    | nil => rfl
    | cons c chars ih =>
      rw [List.mem_cons, not_or] at h
      have front : encodeChars (c :: chars) = String.utf8EncodeChar c ++ encodeChars chars := List.flatMap_cons
      rw [front, decodeBytes_append_of_notMem (mark_notMem_encodeChar (Ne.symm h.1)), ih h.2]
  rw [decode, Utf8.encode, stays s.toList h]
  exact decodeLossy_encode s

/-- Bytes are never decoded to none. -/
theorem decodeBytes_ne_nil {bytes : Bytes} (some : bytes ≠ []) : decodeBytes bytes ≠ [] := by
  match bytes with
  | [] => exact absurd rfl some
  | [_] => simp [decodeBytes]
  | [_, _] => simp [decodeBytes]
  | b :: high :: low :: rest =>
    unfold decodeBytes
    split <;> simp

/-- Only the empty text is decoded to nothing. -/
theorem decode_ne_empty {s : String} (nonempty : s ≠ "") : decode s ≠ "" := by
  have some : decodeBytes (Utf8.encode s) ≠ [] :=
    decodeBytes_ne_nil fun none => nonempty (encode_injective none)
  obtain ⟨lead, rest, bytes⟩ := List.exists_cons_of_ne_nil some
  have symbol : symbols (decodeBytes (Utf8.encode s)) ≠ [] := by
    intro none
    have length := length_symbols_cons lead rest
    rw [← bytes, none] at length
    cases length
  intro empty
  rw [decode, decodeLossy] at empty
  have chars := congrArg String.toList empty
  rw [String.toList_ofList] at chars
  exact symbol (List.map_eq_nil_iff.1 chars)

end Percent

end ResourceApi
