import Sbom.Text.Hex
import Sbom.Yaml.Character
import Sbom.Yaml.Meaning
import Sbom.Yaml.Scalar

/-!
# The written form of texts

How a text is put down as a scalar. A text is written plainly when a reader takes it for text and
for nothing else; otherwise it is put between quotes, and a text with line feeds becomes a block of
lines. A text that none of these can hold is put between double quotes with escapes.
-/

namespace Sbom.Yaml

/-! ## What a text holds -/

/-- Whether a character of one kind is followed at once by one of another kind. -/
def hasPair (first second : Char → Bool) : List Char → Bool
  | a :: b :: rest => (first a && second b) || hasPair first second (b :: rest)
  | _ => false

/-- Whether a character is a space. -/
def isSpace (c : Char) : Bool :=
  c == ' '

/-- Whether a text ends, or goes on with a space. -/
def startsSpace : List Char → Bool
  | [] => true
  | c :: _ => isSpace c

/-- The characters that cannot start a plain scalar. -/
def reservedStarts : List Char :=
  ['#', ',', '[', ']', '\x7b', '\x7d', '&', '*', '!', '|', '>', '\x27', '\x22', '%', '@', '\x60']

/-- Whether a text starts like something other than a scalar. -/
def startsReserved : List Char → Bool
  | '-' :: '-' :: '-' :: _ => true
  | '.' :: '.' :: '.' :: _ => true
  | [] => false
  | c :: rest =>
    reservedStarts.contains c || ((c == '?' || c == ':' || c == '-') && startsSpace rest)

/-- Whether the rest of a text, after the given character, holds the end of a key or the start of a
comment. -/
def holdsMark (before : Char) : List Char → Bool
  | [] => false
  | c :: rest =>
    (c == ':' && startsSpace rest) || (c == '#' && isSpace before) || holdsMark c rest

/-- Whether a text can be written without marks. -/
def fitsPlain (text : List Char) : Bool :=
  text.all (fun c => isPrintable c && !isBreak c) && !text.head?.any isSpace &&
    !text.getLast?.any isSpace && !startsReserved text &&
      match text with
      | [] => true
      | c :: rest => !holdsMark c rest

/-- Whether a text can be written between single quotes. -/
def fitsSingleQuotes (text : List Char) : Bool :=
  text.all isPrintable && !hasPair isSpace isBreak text && !hasPair isBreak isSpace text

/-- Whether a text can be written as a block of lines. -/
def fitsLines (text : List Char) : Bool :=
  text.all isPrintable && !hasPair isSpace isBreak text && !text.getLast?.any isSpace

/-- The style in which a text is written. -/
def styleOf (text : String) : Style :=
  let chars := text.toList
  if chars.contains '\n' then (if fitsLines chars then .literal else .doubleQuoted)
  else if isPlainText text && fitsPlain chars then .plain
  else if fitsSingleQuotes chars then .singleQuoted
  else .doubleQuoted

/-! ## Forms -/

/-- The spaces in front of a line. -/
def margin (width : Nat) : List Char :=
  List.replicate width ' '

/-- A text between single quotes, without the opening one. A quote is written twice, and every line
after the first one, here or at `lineStart`, has a margin. -/
def singleQuotedForm (width : Nat) (lineStart : Bool) : List Char → List Char
  | [] => (if lineStart then margin width else []) ++ ['\x27']
  | c :: rest =>
    if isBreak c then c :: singleQuotedForm width true rest
    else
      (if lineStart then margin width else []) ++
        (if c == '\x27' then [c, c] else [c]) ++ singleQuotedForm width false rest

/-- A character by its code point, with as few digits as an escape allows. -/
def codeEscape (c : Char) : List Char :=
  let code := c.toNat
  if code ≤ 0xFF then '\\' :: 'x' :: Text.hexUpperPadded 2 code
  else if code ≤ 0xFFFF then '\\' :: 'u' :: Text.hexUpperPadded 4 code
  else '\\' :: 'U' :: Text.hexUpperPadded 8 code

/-- A character as an escape. -/
def escapeForm (c : Char) : List Char :=
  match c.toNat with
  | 0x00 => ['\\', '0']
  | 0x07 => ['\\', 'a']
  | 0x08 => ['\\', 'b']
  | 0x09 => ['\\', 't']
  | 0x0A => ['\\', 'n']
  | 0x0B => ['\\', 'v']
  | 0x0C => ['\\', 'f']
  | 0x0D => ['\\', 'r']
  | 0x1B => ['\\', 'e']
  | 0x22 => ['\\', c]
  | 0x5C => ['\\', c]
  | 0x85 => ['\\', 'N']
  | 0xA0 => ['\\', '_']
  | 0x2028 => ['\\', 'L']
  | 0x2029 => ['\\', 'P']
  | _ => codeEscape c

/-- Whether a character is escaped between double quotes. -/
def needsEscape (c : Char) : Bool :=
  !isPrintable c || isBreak c || c == '\x22' || c == '\\'

/-- A text between double quotes, without the opening one. -/
def doubleQuotedForm (text : List Char) : List Char :=
  text.flatMap (fun c => if needsEscape c then escapeForm c else [c]) ++ ['\x22']

/-- The lines of a block, each of which has a margin unless it is empty. -/
def literalForm (width : Nat) (lineStart : Bool) : List Char → List Char
  | [] => if lineStart then [] else ['\n']
  | c :: rest =>
    if isBreak c then c :: literalForm width true rest
    else
      (if lineStart then margin width else []) ++ c :: literalForm width false rest

/-- The sign for what happens to the line breaks at the end of a text: they are stripped when there
is none, and kept when there are several or nothing else. -/
def chompingSign (text : List Char) : List Char :=
  match text.reverse with
  | [] => ['-']
  | last :: before =>
    if !isBreak last then ['-']
    else if before.head?.all isBreak then ['+']
    else []

/-- The number of spaces by which a block is indented in its parent. -/
def indentStep : Nat := 2

/-- The header of a block of lines. The indentation is given where the first line does not show
it. -/
def literalHeader (text : List Char) : List Char :=
  '|' :: ((if text.head?.any (fun c => isSpace c || isBreak c) then Text.decimal indentStep
    else []) ++ chompingSign text ++ ['\n'])

/-- A text as a scalar up to the end of its last line. Its further lines have a margin. -/
def scalarForm (width : Nat) (text : String) : List Char :=
  let chars := text.toList
  match styleOf text with
  | .singleQuoted => '\x27' :: (singleQuotedForm width false chars ++ ['\n'])
  | .doubleQuoted => '\x22' :: (doubleQuotedForm chars ++ ['\n'])
  | .literal => literalHeader chars ++ literalForm width true chars
  | _ => chars ++ ['\n']

end Sbom.Yaml
