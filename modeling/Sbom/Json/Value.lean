import Sbom.Json.Number
import Sbom.Text.Hex

/-!
# JSON values

The value form of every document this library writes as JSON, and its two written forms. Members
keep the order they are given in. The compact form has no blanks; the pretty form indents by two
spaces and writes an empty array or object on one line.
-/

namespace Sbom

/-- A JSON value. Members of an object keep their order. -/
inductive Json where
  /-- The null value. -/
  | null
  /-- A truth value. -/
  | bool (value : Bool)
  /-- A number as it is written. -/
  | number (value : Json.Number)
  /-- A string. -/
  | string (value : String)
  /-- An array. -/
  | array (items : List Json)
  /-- An object. -/
  | object (members : List (String × Json))

namespace Json

/-- An array of strings. -/
def strings (values : List String) : Json :=
  .array (values.map .string)

/-- A natural number. -/
def nat (value : Nat) : Json :=
  .number (.ofNat value)

/-- How a string writes one of its characters: quotes, backslashes and controls are escaped. -/
def escapeChar (c : Char) : List Char :=
  match c.toNat with
  | 0x22 => ['\\', c]
  | 0x5C => ['\\', c]
  | 0x08 => ['\\', 'b']
  | 0x09 => ['\\', 't']
  | 0x0A => ['\\', 'n']
  | 0x0C => ['\\', 'f']
  | 0x0D => ['\\', 'r']
  | code =>
    if code < 0x20 then
      ['\\', 'u', '0', '0', Text.hexDigit (code / 16), Text.hexDigit (code % 16)]
    else [c]

/-- A string between its quotes. -/
def quote (text : String) : List Char :=
  '\x22' :: (text.toList.flatMap escapeChar ++ ['\x22'])

/-- The text of a truth value. -/
def boolText (value : Bool) : List Char :=
  if value then ['t', 'r', 'u', 'e'] else ['f', 'a', 'l', 's', 'e']

mutual

/-- The text of a value without blanks. -/
def compact : Json → List Char
  | .null => ['n', 'u', 'l', 'l']
  | .bool value => boolText value
  | .number value => value.text
  | .string value => quote value
  | .array items => '[' :: (compactItems true items ++ [']'])
  | .object members => '\x7b' :: (compactMembers true members ++ ['\x7d'])

/-- The items of an array, separated by commas. `first` says that none was written before. -/
def compactItems (first : Bool) : List Json → List Char
  | [] => []
  | item :: rest => (if first then [] else [',']) ++ compact item ++ compactItems false rest

/-- The members of an object, separated by commas. `first` says that none was written before. -/
def compactMembers (first : Bool) : List (String × Json) → List Char
  | [] => []
  | (key, value) :: rest =>
    (if first then [] else [',']) ++ quote key ++ [':'] ++ compact value ++
      compactMembers false rest

end

/-- A line break and the indentation of the given depth. -/
def lineBreak (depth : Nat) : List Char :=
  '\n' :: List.replicate (2 * depth) ' '

mutual

/-- The pieces in which the indented text of a value that stands at the given depth is written. -/
def prettyPieces (depth : Nat) : Json → List (List Char)
  | .null => [['n', 'u', 'l', 'l']]
  | .bool value => [boolText value]
  | .number value => [value.text]
  | .string value => [quote value]
  | .array [] => [['[', ']']]
  | .array (item :: rest) =>
    ['['] :: lineBreak (depth + 1) :: (prettyPieces (depth + 1) item ++
      prettyItems (depth + 1) rest ++ [lineBreak depth, [']']])
  | .object [] => [['\x7b', '\x7d']]
  | .object ((key, value) :: rest) =>
    ['\x7b'] :: lineBreak (depth + 1) :: quote key :: [':', ' '] ::
      (prettyPieces (depth + 1) value ++ prettyMembers (depth + 1) rest ++
        [lineBreak depth, ['\x7d']])

/-- The further items of an array, each on a line of its own. -/
def prettyItems (depth : Nat) : List Json → List (List Char)
  | [] => []
  | item :: rest =>
    [','] :: lineBreak depth :: (prettyPieces depth item ++ prettyItems depth rest)

/-- The further members of an object, each on a line of its own. -/
def prettyMembers (depth : Nat) : List (String × Json) → List (List Char)
  | [] => []
  | (key, value) :: rest =>
    [','] :: lineBreak depth :: quote key :: [':', ' '] ::
      (prettyPieces depth value ++ prettyMembers depth rest)

end

/-- The indented text of a value. -/
def pretty (value : Json) : List Char :=
  (prettyPieces 0 value).flatten

/-- The compact text of a value as a string. -/
def compactText (value : Json) : String :=
  String.ofList value.compact

/-- The indented text of a value as a string. -/
def prettyText (value : Json) : String :=
  String.ofList value.pretty

end Json

end Sbom
