import Sbom.Json.Number
import Sbom.Number.Shortest

/-!
# What a JSON number denotes

A number without fraction and exponent is an integer as long as it fits 64 bits, signed if it has a
minus sign; a negative zero and every other number is a binary floating point number. Digits
beyond 64 bits only count as powers of ten before the point, and not at all after it; the remaining
significand is then scaled by a rounded power of ten. Numbers beyond the floating point range are
not readable.
-/

namespace Sbom.Json

/-- The value of a readable number. -/
inductive Magnitude where
  /-- An integer of 64 bits. -/
  | integer (value : Int)
  /-- A floating point number with its sign. -/
  | float (negative : Bool) (value : Number.Binary64)

/-- The greatest significand that is kept exactly. -/
def greatestSignificand : Nat := 18446744073709551615

/-- The significand after as many digits as fit, and the digits that do not. -/
def fitDigits (significand : Nat) : List Char → Nat × List Char
  | [] => (significand, [])
  | c :: rest =>
    let next := significand * 10 + Text.digitValue c
    if next ≤ greatestSignificand then fitDigits next rest else (significand, c :: rest)

/-- A number scaled by a power of ten: one rounded multiplication or division by the rounded power,
after division by ten to the 308 as long as the power is beyond that. -/
def scaleByTen (value : Number.Binary64) (power : Int) : Option Number.Binary64 :=
  if 308 < power then
    if value.mantissa = 0 then some value else none
  else if power < -308 then
    if value.mantissa = 0 then some value
    else do
      let divided ← value.div? (← Number.nearest? (Nat.pow 10 308) 1)
      scaleByTen divided (power + 308)
  else if 0 ≤ power then do value.mul? (← Number.nearest? (Nat.pow 10 power.toNat) 1)
  else do value.div? (← Number.nearest? (Nat.pow 10 (-power).toNat) 1)
termination_by power.natAbs
decreasing_by omega

/-- The power of ten that an exponent adds. Exponents beyond 32 bits are replaced by one that is
out of range for every significand. -/
def Exponent.power (exponent : Exponent) : Int :=
  let size := min (Text.decimalValue exponent.digits) 2147483647
  if exponent.negative then -(size : Int) else size

/-- What a number denotes; none when it is out of range. -/
def Number.magnitude? (number : Number) : Option Magnitude :=
  let (whole, beyond) := fitDigits 0 number.whole
  match number.fraction, number.exponent, beyond with
  | none, none, [] =>
    if !number.negative then some (.integer whole)
    else if 0 < whole ∧ whole ≤ 9223372036854775808 then some (.integer (-(whole : Int)))
    else (Number.nearest? whole 1).map (.float true)
  | fraction, exponent, beyond => do
    let (significand, left) := fitDigits whole (fraction.getD [])
    let used : Int := ((fraction.getD []).length : Int) - left.length
    let power : Int := beyond.length - used + (exponent.map Exponent.power).getD 0
    let value ← Number.nearest? significand 1
    return .float number.negative (← scaleByTen value power)

/-- The text of a value in the units of its kind. -/
def Magnitude.text : Magnitude → List Char
  | .integer value => (if value < 0 then ['-'] else []) ++ Text.decimal value.natAbs
  | .float negative value => Number.floatText negative value

/-- How a magnitude is named in a message. -/
def Magnitude.shown (magnitude : Magnitude) : String :=
  let kind := match magnitude with
    | .integer _ => "integer"
    | .float _ _ => "floating point"
  kind ++ " `" ++ String.ofList magnitude.text ++ "`"

end Sbom.Json
