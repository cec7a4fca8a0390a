/-!
# Decimal digits

A natural number as its decimal digits, and the value of a run of digits.
-/

namespace Sbom.Text

/-- The decimal digit of a value below ten. -/
def decimalDigit (value : Nat) : Char :=
  Char.ofNat (48 + value)

/-- The decimal digits of a number, most significant first, without leading zeros. -/
def decimal (value : Nat) : List Char :=
  if value < 10 then [decimalDigit value]
  else decimal (value / 10) ++ [decimalDigit (value % 10)]
termination_by value
decreasing_by omega

/-- Whether a character is one of the ten ASCII digits. -/
def isDigit (c : Char) : Bool :=
  '0' ≤ c && c ≤ '9'

/-- The value of an ASCII digit. -/
def digitValue (c : Char) : Nat :=
  c.toNat - 48

/-- The number that a run of decimal digits denotes when it continues `value`. -/
def decimalValueFrom (value : Nat) (digits : List Char) : Nat :=
  digits.foldl (fun total c => total * 10 + digitValue c) value

/-- The number that a run of decimal digits denotes. -/
def decimalValue (digits : List Char) : Nat :=
  decimalValueFrom 0 digits

/-- The decimal digits of a number as a string. -/
def decimalText (value : Nat) : String :=
  String.ofList (decimal value)

/-- The decimal digits of a number, with zeros in front up to `width` of them. -/
def decimalPadded (width value : Nat) : List Char :=
  let digits := decimal value
  List.replicate (width - digits.length) '0' ++ digits

end Sbom.Text
