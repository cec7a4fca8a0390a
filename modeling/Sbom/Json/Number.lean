import Sbom.Text.Decimal

/-!
# JSON numbers

A JSON number is kept as it is written: sign, whole digits, fraction and exponent. Nothing is
rounded until a reader asks for a value.
-/

namespace Sbom.Json

/-- The exponent part of a number. -/
structure Exponent where
  /-- Whether the exponent has a minus sign. -/
  negative : Bool
  /-- Whether the exponent has a sign at all. -/
  signed : Bool
  /-- Whether the exponent is marked by a capital letter. -/
  capital : Bool
  /-- The digits of the exponent. -/
  digits : List Char
deriving DecidableEq, Repr

/-- A number as it is written. -/
structure Number where
  /-- Whether the number has a minus sign. -/
  negative : Bool
  /-- The digits before the point. -/
  whole : List Char
  /-- The digits after the point, if there is a point. -/
  fraction : Option (List Char)
  /-- The exponent, if there is one. -/
  exponent : Option Exponent
deriving DecidableEq, Repr

/-- The number that writes a natural number. -/
def Number.ofNat (value : Nat) : Number :=
  ⟨false, Text.decimal value, none, none⟩

/-- The text of an exponent. -/
def Exponent.text (exponent : Exponent) : List Char :=
  (if exponent.capital then 'E' else 'e') ::
    ((if exponent.signed then [if exponent.negative then '-' else '+'] else []) ++ exponent.digits)

/-- The text of a number. -/
def Number.text (number : Number) : List Char :=
  (if number.negative then ['-'] else []) ++ number.whole ++
    (match number.fraction with
      | some digits => '.' :: digits
      | none => []) ++
    (match number.exponent with
      | some exponent => exponent.text
      | none => [])

end Sbom.Json
