import Sbom.Text.Hex

/-!
# Percent decoding

A percent sign with two hexadecimal digits stands for a byte; any other percent sign stands for
itself. The decoded bytes have to be UTF-8 again.
-/

namespace Sbom.Text

/-- The bytes that a text stands for. -/
def percentBytes : List Char → List UInt8
  | [] => []
  | '%' :: a :: b :: rest =>
    match hexValue? a, hexValue? b with
    | some high, some low => UInt8.ofNat (high * 16 + low) :: percentBytes rest
    | _, _ => UInt8.ofNat 0x25 :: percentBytes (a :: b :: rest)
  | c :: rest => (String.singleton c).toUTF8.toList ++ percentBytes rest

/-- The text that a percent-encoded text stands for; none when its bytes are not UTF-8. -/
def percentDecode? (text : List Char) : Option (List Char) :=
  (String.fromUTF8? ⟨(percentBytes text).toArray⟩).map String.toList

end Sbom.Text
