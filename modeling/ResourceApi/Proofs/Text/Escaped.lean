import ResourceApi.Proofs.Text.Percent
import ResourceApi.Proofs.Text.Pieces
import ResourceApi.Text.Percent.Encoding

/-!
# Escaped texts between separators

An escaped text holds percent signs, digits and letters and nothing else (`of_mem_encode`), so it may stand between separators
that are none of these. Decoding the whole then gives the texts between the same separators (`decode_join_encode`), but what
was a separator and what was escaped can no longer be told apart.
-/

namespace ResourceApi.Percent

open Utf8

/-- Escapes are read before whatever comes after them. -/
theorem decodeBytes_escapeBytes_append (bytes : Bytes) (rest : List Char) :
    decodeBytes (encodeChars (bytes.flatMap escapeByte ++ rest)) = bytes ++ decodeBytes (encodeChars rest) := by
  induction bytes with
  | nil => rfl
  | cons b bytes ih =>
    rw [List.flatMap_cons, List.append_assoc, encodeChars_append, decodeBytes_escaped (escapes_escapeByte b), ih,
      List.cons_append]

/-- A text with every byte escaped is decoded to its bytes, whatever comes after it. -/
theorem decodeBytes_encode_append (s : String) (rest : List Char) :
    decodeBytes (encodeChars ((encode s).toList ++ rest)) = Utf8.encode s ++ decodeBytes (encodeChars rest) := by
  rw [encode, String.toList_ofList, decodeBytes_escapeBytes_append]

/-- A character that is no percent sign stays as it is between escaped texts. -/
theorem decodeBytes_sep {sep : Char} (plain : sep ≠ '%') (rest : List Char) :
    decodeBytes (encodeChars (sep :: rest)) = String.utf8EncodeChar sep ++ decodeBytes (encodeChars rest) := by
  have front : encodeChars (sep :: rest) = String.utf8EncodeChar sep ++ encodeChars rest := List.flatMap_cons
  rw [front, decodeBytes_append_of_notMem (mark_notMem_encodeChar plain)]

/-- Escaped texts that are joined are decoded to the texts, joined in the same way. -/
theorem decode_join_encode (sep : Char) (plain : sep ≠ '%') (texts : List String) :
    decode (Text.join (String.singleton sep) (texts.map encode)) = Text.join (String.singleton sep) texts := by
  have bytes : decodeBytes (Utf8.encode (Text.join (String.singleton sep) (texts.map encode))) =
      Utf8.encode (Text.join (String.singleton sep) texts) := by
    induction texts with
    | nil => rfl
    | cons first rest ih =>
      cases rest with
      | nil =>
        have alone := decodeBytes_encode_append first []
        rw [List.append_nil] at alone
        exact alone.trans (List.append_nil _)
      | cons next rest =>
        have joined (texts : List String) (some : texts ≠ []) (first : String) :
            (Text.join (String.singleton sep) (first :: texts)).toList =
              first.toList ++ sep :: (Text.join (String.singleton sep) texts).toList := by
          rw [Text.join_cons _ _ some]
          simp
        unfold Utf8.encode at ih ⊢
        rw [List.map_cons, joined _ (by simp), joined _ (by simp), decodeBytes_encode_append, decodeBytes_sep plain, ih,
          encodeChars_append]
        rfl
  rw [decode, bytes, decodeLossy_encode]

/-- Texts are escaped one after the other. -/
theorem encode_append (first later : String) : encode (first ++ later) = encode first ++ encode later := by
  unfold encode
  rw [Utf8.encode_append, List.flatMap_append, String.ofList_append]

/-- Texts may be joined before they are escaped, if what stands between them is escaped too. -/
theorem encode_join (between : String) (texts : List String) :
    encode (Text.join between texts) = Text.join (encode between) (texts.map encode) := by
  induction texts with
  | nil => rfl
  | cons first rest ih =>
    cases rest with
    | nil => rfl
    | cons next rest =>
      change encode (first ++ between ++ Text.join between (next :: rest)) =
        encode first ++ encode between ++ Text.join (encode between) ((next :: rest).map encode)
      rw [encode_append, encode_append, ih]

/-- Escapes are written with percent signs, digits and letters. -/
theorem of_mem_encode {s : String} {c : Char} (h : c ∈ (encode s).toList) : c = '%' ∨ c.isAlphanum = true := by
  have digit : ∀ n : Fin 16, (Nat.digitChar n).toUpper.isAlphanum = true := by decide
  rw [encode, String.toList_ofList] at h
  obtain ⟨b, -, held⟩ := List.mem_flatMap.1 h
  have high : b.toNat / 16 < 16 := Nat.div_lt_of_lt_mul b.toNat_lt_size
  have low : b.toNat % 16 < 16 := Nat.mod_lt _ (by decide)
  simp only [escapeByte, Text.hexByte, List.map_cons, List.map_nil, List.mem_cons, List.not_mem_nil, or_false] at held
  rcases held with rfl | rfl | rfl
  · exact .inl rfl
  · exact .inr (digit ⟨_, high⟩)
  · exact .inr (digit ⟨_, low⟩)

/-- Only the empty text is escaped to nothing. -/
theorem encode_ne_empty {s : String} (nonempty : s ≠ "") : encode s ≠ "" := by
  intro empty
  have back := decode_encode s
  rw [empty] at back
  exact nonempty back.symm

end ResourceApi.Percent
