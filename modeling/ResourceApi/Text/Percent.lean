import ResourceApi.Text.Digits
import ResourceApi.Text.Utf8

/-!
# Percent escapes

In paths and query strings a percent sign with two hexadecimal digits stands for a byte. A percent sign that no two
such digits follow stands for itself, so every text can be decoded.
-/

namespace ResourceApi.Percent

/-- The percent sign. -/
def mark : UInt8 := 0x25

/-- The byte that two hexadecimal digits write. -/
def hexPair? (high low : UInt8) : Option UInt8 :=
  match Text.digitValue? 16 (Char.ofNat high.toNat), Text.digitValue? 16 (Char.ofNat low.toNat) with
  | some h, some l => some (UInt8.ofNat (h * 16 + l))
  | _, _ => none

/-- Put every escaped byte in the place of its escape. -/
def decodeBytes : Bytes → Bytes
  | [] => []
  | [b] => [b]
  | [b, c] => [b, c]
  | b :: high :: low :: rest =>
    match if b = mark then hexPair? high low else none with
    | some byte => byte :: decodeBytes rest
    | none => b :: decodeBytes (high :: low :: rest)

/-- The text that an escaped text stands for; bytes that are not UTF-8 are read leniently. -/
def decode (s : String) : String :=
  Utf8.decodeLossy (decodeBytes (Utf8.encode s))

/-- The escape of a byte. -/
def escapeByte (b : UInt8) : List Char :=
  '%' :: (Text.hexByte b.toNat).map Char.toUpper

/-- A text with every byte of it escaped. -/
def encode (s : String) : String :=
  String.ofList ((Utf8.encode s).flatMap escapeByte)

end ResourceApi.Percent
