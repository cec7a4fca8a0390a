/-!
# Hexadecimal digits

The digits of a number in base sixteen, in both cases, and the value of one digit. Readers accept
either case; each format decides which one it writes.
-/

namespace Sbom.Text

/-- The value of a hexadecimal digit of either case. -/
def hexValue? (c : Char) : Option Nat :=
  if '0' ≤ c ∧ c ≤ '9' then some (c.toNat - 48)
  else if 'a' ≤ c ∧ c ≤ 'f' then some (c.toNat - 87)
  else if 'A' ≤ c ∧ c ≤ 'F' then some (c.toNat - 55)
  else none

/-- The lower-case digit of a value below sixteen. -/
def hexDigit (value : Nat) : Char :=
  if value < 10 then Char.ofNat (48 + value) else Char.ofNat (87 + value)

/-- The upper-case digit of a value below sixteen. -/
def hexDigitUpper (value : Nat) : Char :=
  if value < 10 then Char.ofNat (48 + value) else Char.ofNat (55 + value)

/-- The hexadecimal digits of a number, most significant first, without leading zeros, written
with `digit`. -/
def hexDigitsWith (digit : Nat → Char) (value : Nat) : List Char :=
  if value < 16 then [digit value]
  else hexDigitsWith digit (value / 16) ++ [digit (value % 16)]
termination_by value
decreasing_by omega

/-- The lower-case hexadecimal digits of a number, as few as possible. -/
def hexDigits (value : Nat) : List Char :=
  hexDigitsWith hexDigit value

/-- The text with zeros in front of it up to `width` characters. -/
def padZeros (width : Nat) (text : List Char) : List Char :=
  List.replicate (width - text.length) '0' ++ text

/-- The upper-case hexadecimal digits of a number, at least `width` of them. -/
def hexUpperPadded (width value : Nat) : List Char :=
  padZeros width (hexDigitsWith hexDigitUpper value)

end Sbom.Text
