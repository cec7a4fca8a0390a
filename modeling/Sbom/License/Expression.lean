import Sbom.License.Catalogue
import Sbom.Text.Blank

/-!
# Licence expressions

Licence expressions combine licences with `AND`, `OR`, `WITH`, parentheses and a trailing plus sign.
The tolerant reading used here also takes lower-case operators, a slash for `OR` and imprecise
licence names. A text is an expression when it splits into tokens and every token may follow the one
before it.
-/

namespace Sbom.License

/-- A token of a licence expression. -/
inductive Token where
  /-- A listed licence. -/
  | license
  /-- A reference to a licence that is not listed. -/
  | reference
  /-- A listed exception. -/
  | exception
  /-- `AND`. -/
  | conjunction
  /-- `OR`, also written as a slash. -/
  | disjunction
  /-- `WITH`. -/
  | exceptionMark
  /-- The plus sign after a licence. -/
  | plus
  /-- An opening parenthesis. -/
  | openParen
  /-- A closing parenthesis. -/
  | closeParen
deriving DecidableEq, Repr

/-- Whether a character may stand in an identifier. -/
def isIdChar (c : Char) : Bool :=
  ('a' ≤ c && c ≤ 'z') || ('A' ≤ c && c ≤ 'Z') || ('0' ≤ c && c ≤ '9') || c == '-' || c == '.'

/-- Whether a character may stand in a word of an expression. -/
def isWordChar (c : Char) : Bool :=
  isIdChar c || c == ':'

/-- The small letter of an ASCII capital, and any other character itself. -/
def asciiLower (c : Char) : Char :=
  if 'A' ≤ c ∧ c ≤ 'Z' then Char.ofNat (c.toNat + 32) else c

/-- Whether a text starts with a name, the case of ASCII letters aside. -/
def startsWithName : List Char → List Char → Bool
  | [], _ => true
  | _ :: _, [] => false
  | n :: name, c :: text => asciiLower n == asciiLower c && startsWithName name text

/-- The length of a name, if the text starts with it exactly. -/
def startLength? (name : String) (text : List Char) : Option Nat :=
  if name.toList.isPrefixOf text then some name.length else none

/-- The length of a licence reference at the start of a word. -/
def referenceLength? (word : List Char) : Option Nat :=
  match startLength? "LicenseRef-" word with
  | some mark => some (mark + ((word.drop mark).takeWhile isIdChar).length)
  | none => do
    let mark ← startLength? "DocumentRef-" word
    let afterMark := word.drop mark
    let document := (afterMark.takeWhile isIdChar).length
    let middle ← startLength? ":LicenseRef-" (afterMark.drop document)
    let inner := ((afterMark.drop (document + middle)).takeWhile isIdChar).length
    return mark + document + middle + inner

/-- The length of the first imprecise name that the text starts with, if it stands for a licence. -/
def impreciseLength? (text : List Char) : Option Nat :=
  match impreciseNames.find? fun (name, _) => startsWithName name.toList text with
  | some (name, id) => (licenseId? id.toList).map fun _ => name.length
  | none => none

/-- The operator that a word writes, all in capitals or all in small letters. -/
def operator? (word : List Char) : Option Token :=
  if word = ['W', 'I', 'T', 'H'] ∨ word = ['w', 'i', 't', 'h'] then some .exceptionMark
  else if word = ['A', 'N', 'D'] ∨ word = ['a', 'n', 'd'] then some .conjunction
  else if word = ['O', 'R'] ∨ word = ['o', 'r'] then some .disjunction
  else none

/-- The token that a text starts with and its length, when that is not a sign. A text that starts
with no word has no token. -/
def wordToken? (text : List Char) : Option (Token × Nat) :=
  match text.takeWhile isWordChar with
  | [] => none
  | word =>
    match operator? word with
    | some token => some (token, word.length)
    | none =>
      if (licenseId? word).isSome then some (.license, word.length)
      else if isExceptionId word then some (.exception, word.length)
      else
        match referenceLength? word with
        | some length => some (.reference, length)
        | none => (impreciseLength? text).map fun length => (.license, length)

/-- The token that a text starts with and its length. -/
def token? : List Char → Option (Token × Nat)
  | [] => none
  | '+' :: _ => some (.plus, 1)
  | '(' :: _ => some (.openParen, 1)
  | ')' :: _ => some (.closeParen, 1)
  | '/' :: _ => some (.disjunction, 1)
  | text => wordToken? text

/-- The tokens of a text; none when a part of it is no token, or when white space precedes a plus
sign. The fuel bounds the number of tokens; the length of the text and one is always enough. -/
def tokensWithin : Nat → List Char → Option (List Token)
  | 0, _ => none
  | fuel + 1, text =>
    let start := Text.trimStart text
    match start with
    | [] => some []
    | _ =>
      match token? start with
      | none => none
      | some (token, length) =>
        if token = .plus ∧ start.length ≠ text.length then none
        else (tokensWithin fuel (start.drop length)).map (token :: ·)

/-- The tokens of a text. -/
def tokens? (text : List Char) : Option (List Token) :=
  tokensWithin (text.length + 1) text

/-- Whether a token may follow another one; at the start there is none before it. -/
def mayFollow (before : Option Token) (token : Token) : Bool :=
  match token with
  | .license | .reference | .openParen =>
    match before with
    | none | some .conjunction | some .disjunction | some .openParen => true
    | _ => false
  | .plus => before == some .license
  | .exceptionMark =>
    match before with
    | some .license | some .reference | some .plus => true
    | _ => false
  | .exception => before == some .exceptionMark
  | .conjunction | .disjunction | .closeParen =>
    match before with
    | some .license | some .reference | some .closeParen | some .exception | some .plus => true
    | _ => false

/-- Whether an expression may end after a token. -/
def mayEnd : Option Token → Bool
  | some .license | some .reference | some .exception | some .closeParen | some .plus => true
  | _ => false

/-- Whether tokens continue an expression whose last token is `before`, inside `depth` open
parentheses. -/
def continues (before : Option Token) (depth : Nat) : List Token → Bool
  | [] => mayEnd before && depth == 0
  | token :: rest =>
    mayFollow before token &&
      match token, depth with
      | .openParen, depth => continues (some token) (depth + 1) rest
      | .closeParen, 0 => false
      | .closeParen, depth + 1 => continues (some token) depth rest
      | _, depth => continues (some token) depth rest

/-- Whether a text is a licence expression. -/
def isExpression (text : List Char) : Bool :=
  match tokens? text with
  | some tokens => continues none 0 tokens
  | none => false

end Sbom.License
