/-!
# Binary floating point

Finite non-negative numbers in the 64-bit binary format, as exact fractions: `mantissa` times two
to the power `exponent`. `nearest?` rounds a quotient of natural numbers to the nearest of them,
ties going to the even mantissa.
-/

namespace Sbom.Number

/-- A finite non-negative number of the 64-bit binary format. -/
structure Binary64 where
  /-- The mantissa, below 2 to the 53. -/
  mantissa : Nat
  /-- The power of two, from -1074 on. -/
  exponent : Int
deriving DecidableEq, Repr

/-- The number zero. -/
def Binary64.zero : Binary64 := ⟨0, -1074⟩

/-- The quotient of two natural numbers, rounded to the nearest, ties to even. -/
def roundedQuotient (num den : Nat) : Nat :=
  let quotient := num / den
  let twice := 2 * (num % den)
  if den < twice ∨ (twice = den ∧ quotient % 2 = 1) then quotient + 1 else quotient

/-- A number as numerator and denominator. -/
def Binary64.fraction (value : Binary64) : Nat × Nat :=
  (value.mantissa * Nat.pow 2 value.exponent.toNat, Nat.pow 2 (-value.exponent).toNat)

/-- The power of two that gives a positive quotient a mantissa of 53 bits, or the least one. -/
def exponentOf (num den : Nat) : Int :=
  let guess : Int := (Nat.log2 num : Int) - Nat.log2 den - 52
  let tooHigh := num * Nat.pow 2 (-guess).toNat / (den * Nat.pow 2 guess.toNat) < Nat.pow 2 52
  max (-1074) (if tooHigh then guess - 1 else guess)

/-- The number of the format nearest to a quotient; none when it lies beyond the greatest. -/
def nearest? (num den : Nat) : Option Binary64 :=
  if num = 0 then some .zero
  else
    let exponent := exponentOf num den
    let mantissa :=
      roundedQuotient (num * Nat.pow 2 (-exponent).toNat) (den * Nat.pow 2 exponent.toNat)
    let value : Binary64 :=
      if mantissa = Nat.pow 2 53 then ⟨Nat.pow 2 52, exponent + 1⟩ else ⟨mantissa, exponent⟩
    if value.exponent ≤ 971 then some value else none

/-- The rounded product of two numbers. -/
def Binary64.mul? (left right : Binary64) : Option Binary64 :=
  let (a, b) := left.fraction
  let (c, d) := right.fraction
  nearest? (a * c) (b * d)

/-- The rounded quotient of two numbers, the second of them positive. -/
def Binary64.div? (left right : Binary64) : Option Binary64 :=
  let (a, b) := left.fraction
  let (c, d) := right.fraction
  nearest? (a * d) (b * c)

end Sbom.Number
