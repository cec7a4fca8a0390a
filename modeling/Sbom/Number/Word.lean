import Sbom.Text.Decimal

/-!
# Words

A word is a number of 32 bits. Its sums and products wrap around; the checked ones have no result
where they would. A word is read from its decimal digits with checked sums and products only.
-/

namespace Sbom.Number

/-- A number of 32 bits. -/
abbrev Word := BitVec 32

namespace Word

/-- The product of two words, unless it wraps around. -/
def checkedMul? (left right : Word) : Option Word :=
  if left.umulOverflow right then none else some (left * right)

/-- The sum of two words, unless it wraps around. -/
def checkedAdd? (left right : Word) : Option Word :=
  if left.uaddOverflow right then none else some (left + right)

/-- The word that a digit stands for. -/
def digit? (c : Char) : Option Word :=
  if Text.isDigit c then some (BitVec.ofNat 32 (Text.digitValue c)) else none

/-- The word with one more digit at its end, unless it wraps around. -/
def appendDigit? (total : Word) (c : Char) : Option Word := do
  let shifted ← checkedMul? total 10
  let digit ← digit? c
  checkedAdd? shifted digit

/-- The word that a run of digits writes when it continues `total`. There is none if another
character occurs or a digit leads out of the words. -/
def readDigits? (total : Word) : List Char → Option Word
  | [] => some total
  | c :: rest => do
    let next ← appendDigit? total c
    readDigits? next rest

/-- The text after one leading plus sign, if there is one. -/
def dropPlus : List Char → List Char
  | '+' :: rest => rest
  | text => text

/-- The word that a text writes: at least one digit, after at most one plus sign. -/
def parse? (text : List Char) : Option Word :=
  match dropPlus text with
  | [] => none
  | digits => readDigits? 0 digits

end Word

end Sbom.Number
