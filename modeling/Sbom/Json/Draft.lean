import Sbom.Json.Value

/-!
# Reading JSON text

Reading JSON text gives a `Draft`: the value as far as the text determines it. Where the text stops
being JSON the draft is cut, and everything before that place is still there. A decoder walks the
draft from left to right, so of a type error and a syntax error the one that stands first in the
text decides. A text is one JSON value exactly when its draft has no cut (`parse?`).
-/

namespace Sbom.Json

/-- A JSON value as far as a text determines it. -/
inductive Draft where
  /-- The null value. -/
  | null
  /-- A truth value. -/
  | bool (value : Bool)
  /-- A number as it is written. -/
  | number (value : Number)
  /-- A string; `none` when an escape in it names half of a surrogate pair, so that the string
  can be skipped but not used. -/
  | string (value : Option String)
  /-- An array; `closed` is false when the text breaks off inside it. -/
  | array (items : List Draft) (closed : Bool)
  /-- An object; `closed` is false when the text breaks off inside it, as it does after a key that is
  no string. -/
  | object (members : List (Draft × Draft)) (closed : Bool)
  /-- No value stands here. -/
  | cut

/-- The text of a draft that is a string which can be used. -/
def Draft.text? : Draft → Option String
  | .string value => value
  | _ => none

/-- Whether a character is white space between JSON tokens. -/
def isSpace (c : Char) : Bool :=
  c == ' ' || c == '\n' || c == '\t' || c == '\r'

/-- The text without leading white space. -/
def skipSpaces (text : List Char) : List Char :=
  text.dropWhile isSpace

/-- The text after the given start, if the text starts with it. -/
def after? : List Char → List Char → Option (List Char)
  | [], text => some text
  | _ :: _, [] => none
  | c :: start, d :: text => if c = d then after? start text else none

/-- One element of a string: a character, or half of a surrogate pair. -/
inductive Unit16 where
  /-- A character of the text, written directly or by an escape. -/
  | scalar (c : Char)
  /-- A surrogate code unit, written by an escape. -/
  | surrogate (code : Nat)

/-- Four hexadecimal digits at the start of a text: their value and the rest. -/
def fourHex? : List Char → Option (Nat × List Char)
  | a :: b :: c :: d :: rest =>
    match Text.hexValue? a, Text.hexValue? b, Text.hexValue? c, Text.hexValue? d with
    | some w, some x, some y, some z => some (((w * 16 + x) * 16 + y) * 16 + z, rest)
    | _, _, _, _ => none
  | _ => none

/-- The unit that a code between U+0000 and U+FFFF stands for. -/
def unitOfCode (code : Nat) : Unit16 :=
  if 0xD800 ≤ code ∧ code ≤ 0xDFFF then .surrogate code else .scalar (Char.ofNat code)

/-- The character of a one-letter escape. -/
def shortEscape? (c : Char) : Option Char :=
  match c.toNat with
  | 0x22 => some c
  | 0x5C => some c
  | 0x2F => some c
  | 0x62 => some '\x08'
  | 0x66 => some '\x0c'
  | 0x6E => some '\n'
  | 0x72 => some '\r'
  | 0x74 => some '\t'
  | _ => none

/-- The units of a string up to its closing quote, and the text after it. Control characters must
be escaped. -/
def readUnits : List Char → Option (List Unit16 × List Char)
  | [] => none
  | '\x22' :: rest => some ([], rest)
  | '\\' :: 'u' :: a :: b :: c :: d :: rest =>
    match fourHex? [a, b, c, d] with
    | some (code, _) =>
      (readUnits rest).map fun (units, tail) => (unitOfCode code :: units, tail)
    | none => none
  | '\\' :: c :: rest =>
    match shortEscape? c with
    | some meant => (readUnits rest).map fun (units, tail) => (.scalar meant :: units, tail)
    | none => none
  | c :: rest =>
    if c = '\\' ∨ c.toNat < 0x20 then none
    else (readUnits rest).map fun (units, tail) => (.scalar c :: units, tail)

/-- The characters of a string, when every surrogate in it belongs to a pair. -/
def joinUnits : List Unit16 → Option (List Char)
  | [] => some []
  | .scalar c :: rest => (joinUnits rest).map (c :: ·)
  | .surrogate high :: .surrogate low :: rest =>
    if high < 0xDC00 ∧ 0xDC00 ≤ low then
      (joinUnits rest).map
        (Char.ofNat (0x10000 + (high - 0xD800) * 0x400 + (low - 0xDC00)) :: ·)
    else none
  | .surrogate _ :: _ => none

/-- A string whose opening quote was read. -/
def readString (text : List Char) : Option (Option String × List Char) :=
  (readUnits text).map fun (units, rest) => ((joinUnits units).map String.ofList, rest)

/-- A run of digits at the start of a text, and the rest. -/
def digits (text : List Char) : List Char × List Char :=
  (text.takeWhile Text.isDigit, text.dropWhile Text.isDigit)

/-- The whole digits of a number: a lone zero, or digits that do not start with one. -/
def wholePart? (text : List Char) : Option (List Char × List Char) :=
  match digits text with
  | ([], _) => none
  | ('0' :: _ :: _, _) => none
  | found => some found

/-- The fraction of a number, if a point follows. -/
def fractionPart? : List Char → Option (Option (List Char) × List Char)
  | '.' :: rest =>
    match digits rest with
    | ([], _) => none
    | (found, tail) => some (some found, tail)
  | text => some (none, text)

/-- The sign of an exponent: whether there is one, whether it is a minus, and the rest. -/
def exponentSign : List Char → Bool × Bool × List Char
  | '+' :: rest => (true, false, rest)
  | '-' :: rest => (true, true, rest)
  | text => (false, false, text)

/-- The exponent whose mark was read. -/
def exponentBody? (capital : Bool) (text : List Char) : Option (Option Exponent × List Char) :=
  let (signed, negative, rest) := exponentSign text
  match digits rest with
  | ([], _) => none
  | (found, tail) => some (some ⟨negative, signed, capital, found⟩, tail)

/-- The exponent of a number, if its mark follows. -/
def exponentPart? : List Char → Option (Option Exponent × List Char)
  | 'e' :: rest => exponentBody? false rest
  | 'E' :: rest => exponentBody? true rest
  | text => some (none, text)

/-- A number whose sign was read. -/
def readNumber (negative : Bool) (text : List Char) : Option (Number × List Char) := do
  let (whole, rest) ← wholePart? text
  let (fraction, rest) ← fractionPart? rest
  let (exponent, rest) ← exponentPart? rest
  return (⟨negative, whole, fraction, exponent⟩, rest)

mutual

/-- One value at the start of a text, and the text after it; no text when the value is cut. The
fuel bounds the nesting of calls; twice the length of the text and one is always enough. -/
def readValue : Nat → List Char → Draft × Option (List Char)
  | 0, _ => (.cut, none)
  | fuel + 1, text =>
    match skipSpaces text with
    | [] => (.cut, none)
    | '\x22' :: rest =>
      match readString rest with
      | some (value, tail) => (.string value, some tail)
      | none => (.cut, none)
    | '[' :: rest =>
      match skipSpaces rest with
      | ']' :: tail => (.array [] true, some tail)
      | body =>
        match readItems fuel body with
        | (items, some tail) => (.array items true, some tail)
        | (items, none) => (.array items false, none)
    | '\x7b' :: rest =>
      match skipSpaces rest with
      | '\x7d' :: tail => (.object [] true, some tail)
      | body =>
        match readMembers fuel body with
        | (members, some tail) => (.object members true, some tail)
        | (members, none) => (.object members false, none)
    | '-' :: rest =>
      match readNumber true rest with
      | some (value, tail) => (.number value, some tail)
      | none => (.cut, none)
    | c :: rest =>
      if Text.isDigit c then
        match readNumber false (c :: rest) with
        | some (value, tail) => (.number value, some tail)
        | none => (.cut, none)
      else
        match after? ['n', 'u', 'l', 'l'] (c :: rest) with
        | some tail => (.null, some tail)
        | none =>
          match after? (boolText true) (c :: rest) with
          | some tail => (.bool true, some tail)
          | none =>
            match after? (boolText false) (c :: rest) with
            | some tail => (.bool false, some tail)
            | none => (.cut, none)

/-- The items of an array up to its closing bracket, and the text after it. -/
def readItems : Nat → List Char → List Draft × Option (List Char)
  | 0, _ => ([], none)
  | fuel + 1, text =>
    match readValue fuel text with
    | (item, none) => ([item], none)
    | (item, some tail) =>
      match skipSpaces tail with
      | ']' :: rest => ([item], some rest)
      | ',' :: rest =>
        let (items, end?) := readItems fuel rest
        (item :: items, end?)
      | _ => ([item], none)

/-- The members of an object up to its closing brace, and the text after it. -/
def readMembers : Nat → List Char → List (Draft × Draft) × Option (List Char)
  | 0, _ => ([], none)
  | fuel + 1, text =>
    match readValue fuel text with
    | (.string key, some afterKey) =>
      match skipSpaces afterKey with
      | ':' :: afterColon =>
        match readValue fuel afterColon with
        | (value, none) => ([(.string key, value)], none)
        | (value, some tail) =>
          match skipSpaces tail with
          | '\x7d' :: rest => ([(.string key, value)], some rest)
          | ',' :: rest =>
            let (members, end?) := readMembers fuel rest
            ((.string key, value) :: members, end?)
          | _ => ([(.string key, value)], none)
      | _ => ([(.string key, .cut)], none)
    | (key, _) => ([(key, .cut)], none)

end

/-- What a whole text determines: its first value, and whether nothing but white space follows. -/
def read (text : List Char) : Draft × Bool :=
  match readValue (2 * text.length + 1) text with
  | (draft, some rest) => (draft, (skipSpaces rest).isEmpty)
  | (draft, none) => (draft, false)

mutual

/-- The value of a draft without a cut. -/
def Draft.value? : Draft → Option Json
  | .null => some .null
  | .bool value => some (.bool value)
  | .number value => some (.number value)
  | .string value => value.map .string
  | .array items closed => if closed then (Draft.values? items).map .array else none
  | .object members closed => if closed then (Draft.members? members).map .object else none
  | .cut => none

/-- The values of drafts without a cut. -/
def Draft.values? : List Draft → Option (List Json)
  | [] => some []
  | item :: rest =>
    match item.value?, Draft.values? rest with
    | some value, some values => some (value :: values)
    | _, _ => none

/-- The members of drafts without a cut. -/
def Draft.members? : List (Draft × Draft) → Option (List (String × Json))
  | [] => some []
  | (key, item) :: rest =>
    match key.text?, item.value?, Draft.members? rest with
    | some key, some value, some values => some ((key, value) :: values)
    | _, _, _ => none

end

/-- The one JSON value that a text holds. -/
def parse? (text : List Char) : Option Json :=
  match read text with
  | (draft, true) => draft.value?
  | (_, false) => none

end Sbom.Json
