import Sbom.Number.Shortest
import Sbom.Text.Hex
import Sbom.Text.Quoted

/-!
# What plain scalars mean

A plain scalar may stand for nothing, a truth value, an integer or a floating point number; every
other one is text. Digits with a needless zero in front are text too. The meaning decides how a
reader names a scalar that it did not expect, and which texts a writer has to quote.
-/

namespace Sbom.Yaml

/-- What a plain scalar means. -/
inductive Meaning where
  /-- Nothing. -/
  | null
  /-- A truth value. -/
  | bool (value : Bool)
  /-- An integer of at most 128 bits. -/
  | integer (value : Int)
  /-- A finite floating point number. -/
  | float (negative : Bool) (value : Number.Binary64)
  /-- An infinite number. -/
  | infinity (negative : Bool)
  /-- No number. -/
  | notANumber
  /-- Text. -/
  | text
deriving DecidableEq, Repr

/-- The texts that stand for nothing. -/
def nullTexts : List String := ["null", "Null", "NULL", "~"]

/-- The truth value that a text stands for. -/
def boolOf? (text : String) : Option Bool :=
  if ["true", "True", "TRUE"].contains text then some true
  else if ["false", "False", "FALSE"].contains text then some false
  else none

/-- Whether a text is made of digits, with a sign or without, and has a needless zero in front. -/
def isPadded (text : List Char) : Bool :=
  let digits := match text with
    | '-' :: rest => rest
    | '+' :: rest => rest
    | text => text
  match digits with
  | '0' :: c :: rest => (c :: rest).all Text.isDigit
  | _ => false

/-- The number that digits of a radix denote; none when there are none or one is no digit. -/
def digitsValue? (radix : Nat) (digits : List Char) : Option Nat :=
  if digits.isEmpty then none
  else
    digits.foldl
      (fun total c => total.bind fun value => (Text.hexValue? c).bind fun digit =>
        if digit < radix then some (value * radix + digit) else none)
      (some 0)

/-- The size of an integer whose sign was read; digits alone must not be padded. -/
def integerSize? (padded : Bool) (text : List Char) : Option Nat :=
  match text with
  | '0' :: 'x' :: digits => digitsValue? 16 digits
  | '0' :: 'o' :: digits => digitsValue? 8 digits
  | '0' :: 'b' :: digits => digitsValue? 2 digits
  | digits => if padded then none else digitsValue? 10 digits

/-- The integer that a text stands for, if it has at most 128 bits. -/
def integerOf? (text : List Char) : Option Int :=
  match text with
  | '-' :: rest => (integerSize? (isPadded text) rest).bind fun size =>
    if size ≤ Nat.pow 2 127 then some (-(size : Int)) else none
  | text =>
    let rest := match text with
      | '+' :: rest => rest
      | text => text
    (integerSize? (isPadded text) rest).bind fun size =>
      if size < Nat.pow 2 128 then some size else none

/-- The power of ten that an exponent stands for; none when the text is no exponent. -/
def exponentOf? (text : List Char) : Option Int :=
  match text with
  | [] => some 0
  | mark :: rest =>
    if mark == 'e' || mark == 'E' then
      match rest with
      | '-' :: digits => (digitsValue? 10 digits).map fun size => -(size : Int)
      | '+' :: digits => (digitsValue? 10 digits).map fun size => (size : Int)
      | digits => (digitsValue? 10 digits).map fun size => (size : Int)
    else none

/-- The finite number that a decimal without a sign stands for. -/
def decimalOf? (text : List Char) : Option Number.Binary64 :=
  let whole := text.takeWhile Text.isDigit
  let rest := text.dropWhile Text.isDigit
  let (fraction, rest) := match rest with
    | '.' :: rest => (rest.takeWhile Text.isDigit, rest.dropWhile Text.isDigit)
    | rest => ([], rest)
  if whole.isEmpty && fraction.isEmpty then none
  else
    (exponentOf? rest).bind fun power =>
      Number.ofDecimal? (whole ++ fraction) (power - fraction.length)

/-- The texts of infinity without a sign. -/
def infinityTexts : List (List Char) :=
  [['.', 'i', 'n', 'f'], ['.', 'I', 'n', 'f'], ['.', 'I', 'N', 'F']]

/-- The texts that stand for no number. -/
def notANumberTexts : List (List Char) :=
  [['.', 'n', 'a', 'n'], ['.', 'N', 'a', 'N'], ['.', 'N', 'A', 'N']]

/-- The floating point number that a text stands for. A plus sign stands before positive numbers
only. -/
def floatOf? (text : List Char) : Option Meaning :=
  match text with
  | '-' :: rest =>
    if infinityTexts.contains rest then some (.infinity true)
    else (decimalOf? rest).map (.float true)
  | '+' :: rest =>
    if infinityTexts.contains rest then some (.infinity false)
    else (decimalOf? rest).map (.float false)
  | rest =>
    if infinityTexts.contains rest then some (.infinity false)
    else if notANumberTexts.contains rest then some .notANumber
    else (decimalOf? rest).map (.float false)

/-- What a plain scalar means. -/
def meaningOf (text : String) : Meaning :=
  if text.isEmpty || nullTexts.contains text then .null
  else
    match boolOf? text with
    | some value => .bool value
    | none =>
      match integerOf? text.toList with
      | some value => .integer value
      | none => if isPadded text.toList then .text else (floatOf? text.toList).getD .text

/-- Whether a plain scalar is text that no reader takes for anything else. -/
def isPlainText (text : String) : Bool :=
  meaningOf text = .text && !isPadded text.toList

/-- The text of an integer. -/
def integerText (value : Int) : String :=
  String.ofList ((if value < 0 then ['-'] else []) ++ Text.decimal value.natAbs)

/-- How an integer is named in a message; one beyond 64 bits is named with its width. -/
def integerShown (value : Int) : String :=
  "integer " ++ Text.backQuoted (integerText value) ++
    if Nat.pow 2 64 ≤ value then " as u128"
    else if value < -(Nat.pow 2 63) then " as i128"
    else ""

/-- How the meaning of a scalar is named in a message. -/
def Meaning.shown (meaning : Meaning) (text : String) : String :=
  match meaning with
  | .null => "unit value"
  | .bool value => "boolean " ++ Text.backQuoted (if value then "true" else "false")
  | .integer value => integerShown value
  | .float negative value =>
    "floating point " ++ Text.backQuoted (String.ofList (Number.positionalText negative value))
  | .infinity negative => "floating point " ++ Text.backQuoted (if negative then "-inf" else "inf")
  | .notANumber => "floating point " ++ Text.backQuoted "NaN"
  | .text => "string " ++ Text.shownQuoted text

end Sbom.Yaml
