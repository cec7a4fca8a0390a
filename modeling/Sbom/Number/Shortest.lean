import Sbom.Number.Binary64
import Sbom.Text.Decimal

/-!
# Shortest decimals

The decimal with the fewest digits that rounds back to a given binary number; of several with that
many digits the one nearest to it. Every point of a decimal grid that rounds to the number implies
that one of the two grid neighbours of the number does, so only those two are tried.
-/

namespace Sbom.Number

/-- A positive decimal: `digits` times ten to the power `exponent`. -/
structure Decimal where
  /-- The digits as a number. -/
  digits : Nat
  /-- The power of ten. -/
  exponent : Int

/-- Numerator and denominator of ten to a power. -/
def powerOfTen (exponent : Int) : Nat × Nat :=
  (Nat.pow 10 exponent.toNat, Nat.pow 10 (-exponent).toNat)

/-- Whether a fraction rounds to `value`: it lies between the midpoints to the neighbours, ends
included when the mantissa is even. -/
def roundsTo (value : Binary64) (num den : Nat) : Bool :=
  let (n, d) := value.fraction
  let (unitNum, unitDen) := (Nat.pow 2 value.exponent.toNat, Nat.pow 2 (-value.exponent).toNat)
  let narrow := value.mantissa == Nat.pow 2 52 && value.exponent != -1074
  let even := value.mantissa % 2 == 0
  -- four times the distances, over the common denominator
  let scaled := 4 * num * d * unitDen
  let centre := 4 * n * den * unitDen
  let step := unitNum * den * d
  let low := centre - (if narrow then step else 2 * step)
  let high := centre + 2 * step
  if even then low ≤ scaled && scaled ≤ high else low < scaled && scaled < high

/-- The power of ten of the leading digit of a positive fraction. -/
def leadingPower (num den : Nat) : Int :=
  if den ≤ num then ((Text.decimal (num / den)).length : Int) - 1
  else
    let rec scale (fuel : Nat) (power : Nat) : Int :=
      match fuel with
      | 0 => -(power : Int)
      | fuel + 1 => if den ≤ num * Nat.pow 10 power then -(power : Int) else scale fuel (power + 1)
    scale 400 1

/-- The neighbour on the grid of the given power of ten that rounds to `value`, the nearer one if
both do. -/
def onGrid? (value : Binary64) (power : Int) : Option Decimal :=
  let (n, d) := value.fraction
  let (tenNum, tenDen) := powerOfTen power
  let below := n * tenDen / (d * tenNum)
  let excess := n * tenDen % (d * tenNum)
  let fits (digits : Nat) : Bool := roundsTo value (digits * tenNum) tenDen
  let nearerBelow := 2 * excess < d * tenNum || (2 * excess == d * tenNum && below % 2 == 0)
  match fits below, fits (below + 1) with
  | true, true => some ⟨if nearerBelow then below else below + 1, power⟩
  | true, false => some ⟨below, power⟩
  | false, true => some ⟨below + 1, power⟩
  | false, false => none

/-- The shortest decimal of a positive number. -/
def shortest (value : Binary64) : Decimal :=
  let (n, d) := value.fraction
  let lead := leadingPower n d
  match (List.range 17).findSome? fun (count : Nat) => onGrid? value (lead - count) with
  | some decimal => decimal
  | none => ⟨0, 0⟩

/-- A decimal without trailing zero digits. -/
def Decimal.stripped (decimal : Decimal) : List Char × Int :=
  let digits := Text.decimal decimal.digits
  let kept := (digits.reverse.dropWhile (· == '0')).reverse
  (kept, decimal.exponent + ((digits.length - kept.length : Nat) : Int))

/-- The text of a number: the shortest digits, with a point and at least one digit after it. From
ten to the sixteenth on, and below a hundred-thousandth, the text has an exponent with its sign. -/
def floatText (negative : Bool) (value : Binary64) : List Char :=
  (if negative then ['-'] else []) ++
    if value.mantissa = 0 then ['0', '.', '0']
    else
      let (digits, power) := (shortest value).stripped
      let pointAt : Int := digits.length + power
      if 0 ≤ power ∧ pointAt ≤ 16 then
        digits ++ List.replicate power.toNat '0' ++ ['.', '0']
      else if 0 < pointAt ∧ pointAt ≤ 16 then
        digits.take pointAt.toNat ++ '.' :: digits.drop pointAt.toNat
      else if -5 < pointAt ∧ pointAt ≤ 0 then
        '0' :: '.' :: (List.replicate (-pointAt).toNat '0' ++ digits)
      else
        let exponent := pointAt - 1
        digits.take 1 ++ (if digits.length = 1 then [] else '.' :: digits.drop 1) ++
          'e' :: (if exponent < 0 then '-' else '+') :: Text.decimal exponent.natAbs

/-- The text of a number without an exponent: the shortest digits at their place, with a point and at
least one digit after it. -/
def positionalText (negative : Bool) (value : Binary64) : List Char :=
  (if negative then ['-'] else []) ++
    if value.mantissa = 0 then ['0', '.', '0']
    else
      let (digits, power) := (shortest value).stripped
      let pointAt : Int := digits.length + power
      if 0 ≤ power then digits ++ List.replicate power.toNat '0' ++ ['.', '0']
      else if 0 < pointAt then digits.take pointAt.toNat ++ '.' :: digits.drop pointAt.toNat
      else '0' :: '.' :: (List.replicate (-pointAt).toNat '0' ++ digits)

/-- The number nearest to a decimal, which is given by its digits and the power of ten of the last
one; none when it is out of range. Decimals far from the range are not computed. -/
def ofDecimal? (digits : List Char) (power : Int) : Option Binary64 :=
  let significant := digits.dropWhile (· == '0')
  let lead : Int := significant.length + power
  if significant.isEmpty || lead < -400 then some .zero
  else if 400 < lead then none
  else
    let (num, den) := powerOfTen power
    nearest? (Text.decimalValue significant * num) den

end Sbom.Number
