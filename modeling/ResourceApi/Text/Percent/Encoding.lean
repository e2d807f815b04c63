import ResourceApi.Text.Percent
import ResourceApi.Text.Utf8.Encoding

/-!
# What was escaped is read back

A text with every byte escaped decodes to itself (`decode_encode`), whatever it holds: slashes, commas, percent signs.
-/

namespace ResourceApi.Percent

/-- Three bytes that write a byte: the mark and two digits. -/
def Escapes (b : UInt8) : Bytes → Prop
  | [m, high, low] => m = mark ∧ hexPair? high low = some b
  | _ => False

instance (b : UInt8) (bytes : Bytes) : Decidable (Escapes b bytes) := by
  unfold Escapes
  split <;> infer_instance

theorem escapes_escapeByte (b : UInt8) : Escapes b (Utf8.encodeChars (escapeByte b)) := by
  have all : ∀ n : Nat, n < 256 → Escapes (UInt8.ofNat n) (Utf8.encodeChars (escapeByte (UInt8.ofNat n))) := by
    decide +kernel
  simpa using all b.toNat b.toNat_lt_size

theorem decodeBytes_escaped {b : UInt8} {escaped : Bytes} (h : Escapes b escaped) (rest : Bytes) :
    decodeBytes (escaped ++ rest) = b :: decodeBytes rest := by
  match escaped, h with
  | [m, high, low], ⟨hm, hb⟩ => simp [decodeBytes, hm, hb]

theorem decodeBytes_escapeBytes (bytes : Bytes) :
    decodeBytes (Utf8.encodeChars (bytes.flatMap escapeByte)) = bytes := by
  induction bytes with
  | nil => rfl
  | cons b bytes ih =>
    rw [List.flatMap_cons, Utf8.encodeChars_append, decodeBytes_escaped (escapes_escapeByte b), ih]

/-- Decoding gives back a text of which every byte was escaped. -/
theorem decode_encode (s : String) : decode (encode s) = s := by
  rw [decode, encode, Utf8.encode, String.toList_ofList, decodeBytes_escapeBytes, Utf8.decodeLossy_encode]

end ResourceApi.Percent
