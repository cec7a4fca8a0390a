import Sbom.Text.Hex
import Sbom.Xml.Token

/-!
# What a reader reports

XML 1.0 asks a reader for more than to find the tokens of a text. It takes every line end as one line
feed before it looks at anything else. In the value of an attribute it reports white space that is
written as such as a space; a character that a reference stands for is reported as it is. References
are those to the markup characters by name and those to any character by its number.
-/

namespace Sbom.Xml

/-- The text with every line end as one line feed. `afterReturn` says that the character before it is
a carriage return, which a line feed then belongs to. -/
def unifyLinesFrom : (afterReturn : Bool) → List Char → List Char
  | _, [] => []
  | afterReturn, c :: rest =>
    if c = '\r' then '\n' :: unifyLinesFrom true rest
    else if c = '\n' ∧ afterReturn = true then unifyLinesFrom false rest
    else c :: unifyLinesFrom false rest

/-- The text with every line end as one line feed. -/
def unifyLines (text : List Char) : List Char :=
  unifyLinesFrom false text

/-- The number that digits of a base denote, if there are any. -/
def numberOf? (base : Nat) (digits : List Char) : Option Nat :=
  if digits.isEmpty then none
  else digits.foldlM (fun total c =>
    match Text.hexValue? c with
    | some digit => if digit < base then some (total * base + digit) else none
    | none => none) 0

/-- The character with a number, if there is one that XML can carry. -/
def charOfNumber? (number : Nat) : Option Char :=
  if number.isValidChar ∧ IsChar (Char.ofNat number) then some (Char.ofNat number)
  else none

/-- The character that a reference stands for, given what is between its marks. -/
def referenced? : List Char → Option Char
  | '#' :: 'x' :: digits => (numberOf? 16 digits).bind charOfNumber?
  | '#' :: digits => (numberOf? 10 digits).bind charOfNumber?
  | name => references.lookup name

/-- The character that is reported for one that an attribute value has as it is. -/
def reportedChar (c : Char) : Char :=
  if c = '\t' ∨ c = '\n' ∨ c = '\r' then ' ' else c

/-- What is reported for the value of an attribute in which only markup characters are written as
references. -/
def reportedText (text : String) : String :=
  String.ofList ((unifyLines text.toList).map reportedChar)

example : reportedText "a\t<\r\nb" = "a < b" := by decide

/-- What is reported for a written attribute value; `reference` is the beginning of the reference it
starts in. -/
def attributeValueFrom? : (reference : Option (List Char)) → List Char → Option (List Char)
  | none, [] => some []
  | some _, [] => none
  | none, c :: rest =>
    if c = '&' then attributeValueFrom? (some []) rest
    else (attributeValueFrom? none rest).map (reportedChar c :: ·)
  | some seen, c :: rest =>
    if c = ';' then
      match referenced? seen with
      | none => none
      | some d => (attributeValueFrom? none rest).map (d :: ·)
    else attributeValueFrom? (some (seen ++ [c])) rest

/-- What is reported for a written attribute value. -/
def attributeValue? (written : List Char) : Option String :=
  (attributeValueFrom? none written).map String.ofList

example : attributeValue? "a\tb&#9;c&lt;".toList = some "a b\tc<" := by decide

/-- What an attribute is written as in the tags of a name. -/
def rawValues (tag key : String) (tokens : List Token) : List (List Char) :=
  tokens.filterMap fun
    | .tag _ name attributes => if name = tag then attributes.lookup key else none
    | .instruction _ => none
    | .data _ => none

/-- The values of an attribute in the tags of a name that a reader reports for a text, in order. -/
def reportedValues? (tag key : String) (text : List Char) : Option (List String) := do
  let tokens ← tokens? (unifyLines text)
  (rawValues tag key tokens).mapM attributeValue?

end Sbom.Xml
