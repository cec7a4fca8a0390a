import Sbom.Text.Hex
import Sbom.Yaml.Folding
import Sbom.Yaml.Position

/-!
# Reading scalars

A scalar is written plainly, between quotes of either kind, or as a block of indented lines. Each of
the readers here takes the text after the opening mark and gives the value of the scalar together
with the place where it ends; there is no value when the scalar is malformed.
-/

namespace Sbom.Yaml

/-- How a scalar is written. -/
inductive Style where
  /-- Without marks. -/
  | plain
  /-- Between single quotes. -/
  | singleQuoted
  /-- Between double quotes, with escapes. -/
  | doubleQuoted
  /-- As indented lines that are kept. -/
  | literal
  /-- As indented lines that are folded. -/
  | folded
deriving DecidableEq, Repr

/-- A scalar that was read. -/
structure ScalarRead where
  /-- The value. -/
  text : List Char
  /-- The position after the scalar. -/
  place : Position
  /-- The rest of the text. -/
  rest : List Char
  /-- Whether line breaks were passed after the last word. -/
  crossed : Bool := false

/-- The same reading with more text in front. -/
def ScalarRead.prepend (before : List Char) (read : ScalarRead) : ScalarRead :=
  { read with text := before ++ read.text }

/-! ## Plain scalars -/

/-- Whether a character ends a plain scalar inside a flow collection. -/
def isFlowMark (c : Char) : Bool :=
  c == ',' || c == '[' || c == ']' || c == '\x7b' || c == '\x7d'

/-- Whether a colon is followed by a mark that makes it ambiguous in a flow collection. -/
def isAmbiguousAfterColon : List Char → Bool
  | [] => false
  | c :: _ => isFlowMark c || c == '?'

/-- Whether a plain scalar cannot go on with a word at this place: the word is not indented enough,
or it starts a comment or is a mark between documents. -/
def endsBeforeWord (inFlow : Bool) (least : Nat) (place : Position) (text : List Char) : Bool :=
  (!inFlow && place.column < least) || (place.column == 0 && startsDocumentMark text) ||
    text.head? == some '#'

/-- Reads a plain scalar from a place inside it. Outside flow collections its further lines are
indented by at least `least`; `gap` is what was read since the last word. -/
def readPlain (inFlow : Bool) (least : Nat) (gap : Gap) (place : Position) :
    List Char → Option ScalarRead
  | [] => some ⟨[], place, [], gap.crossesLine⟩
  | '\r' :: '\n' :: rest => readPlain inFlow least (gap.addBreak '\n') (place.nextLine 2) rest
  | c :: rest =>
    if isBreak c then
      readPlain inFlow least (gap.addBreak (meantBreak c)) (place.nextLine c.utf8Size) rest
    else if isBlank c then
      if gap.crossesLine && place.column < least && c == '\t' then none
      else readPlain inFlow least (gap.addBlank c) (place.next c) rest
    else if !gap.isEmpty && endsBeforeWord inFlow least place (c :: rest) then
      some ⟨[], place, c :: rest, gap.crossesLine⟩
    else if inFlow && c == ':' && isAmbiguousAfterColon rest then none
    else if (c == ':' && startsBlank rest) || (inFlow && isFlowMark c) then
      some ⟨[], place, c :: rest, gap.crossesLine⟩
    else
      (readPlain inFlow least .empty (place.next c) rest).map fun read =>
        read.prepend (gap.text ++ [c])

/-! ## Quoted scalars -/

/-- Whether a mark between documents stands where a quoted scalar goes on. -/
def breaksQuoted (place : Position) (text : List Char) : Bool :=
  place.column == 0 && startsDocumentMark text

/-- Reads the inside of a scalar between single quotes, where two of them stand for one. -/
def readSingleQuoted (gap : Gap) (place : Position) : List Char → Option ScalarRead
  | [] => none
  | '\x27' :: '\x27' :: rest =>
    (readSingleQuoted .empty (place.advance 2) rest).map fun read =>
      read.prepend (gap.text ++ ['\x27'])
  | '\x27' :: rest => some { text := gap.text, place := place.advance 1, rest }
  | '\r' :: '\n' :: rest => readSingleQuoted (gap.addBreak '\n') (place.nextLine 2) rest
  | c :: rest =>
    if isBreak c then
      readSingleQuoted (gap.addBreak (meantBreak c)) (place.nextLine c.utf8Size) rest
    else if isBlank c then readSingleQuoted (gap.addBlank c) (place.next c) rest
    else if breaksQuoted place (c :: rest) then none
    else
      (readSingleQuoted .empty (place.next c) rest).map fun read => read.prepend (gap.text ++ [c])

/-- The character of an escape without digits. -/
def namedEscape? (c : Char) : Option Char :=
  match c.toNat with
  | 0x30 => some (Char.ofNat 0x00)
  | 0x61 => some (Char.ofNat 0x07)
  | 0x62 => some (Char.ofNat 0x08)
  | 0x74 => some (Char.ofNat 0x09)
  | 0x09 => some (Char.ofNat 0x09)
  | 0x6E => some (Char.ofNat 0x0A)
  | 0x76 => some (Char.ofNat 0x0B)
  | 0x66 => some (Char.ofNat 0x0C)
  | 0x72 => some (Char.ofNat 0x0D)
  | 0x65 => some (Char.ofNat 0x1B)
  | 0x20 => some c
  | 0x22 => some c
  | 0x2F => some c
  | 0x5C => some c
  | 0x4E => some (Char.ofNat 0x85)
  | 0x5F => some (Char.ofNat 0xA0)
  | 0x4C => some (Char.ofNat 0x2028)
  | 0x50 => some (Char.ofNat 0x2029)
  | _ => none

/-- The number that hexadecimal digits denote; none when one of them is not a digit. -/
def hexNumber? (digits : List Char) : Option Nat :=
  digits.foldl
    (fun total c => total.bind fun value => (Text.hexValue? c).map fun digit => value * 16 + digit)
    (some 0)

/-- The character with a code point that is given in hexadecimal digits; surrogates are none. -/
def hexChar? (digits : List Char) : Option Char :=
  (hexNumber? digits).bind fun code =>
    if (0xD800 ≤ code && code ≤ 0xDFFF) || 0x10FFFF < code then none else some (Char.ofNat code)

/-- Reads the inside of a scalar between double quotes. An escaped line break joins two lines. -/
def readDoubleQuoted (gap : Gap) (place : Position) : List Char → Option ScalarRead
  | [] => none
  | '\x22' :: rest => some { text := gap.text, place := place.advance 1, rest }
  | '\\' :: '\r' :: '\n' :: rest =>
    (readDoubleQuoted (.breaks none []) ((place.advance 1).nextLine 2) rest).map fun read =>
      read.prepend gap.text
  | '\\' :: 'x' :: a :: b :: rest =>
    (hexChar? [a, b]).bind fun meant =>
      (readDoubleQuoted .empty (place.advance 4) rest).map fun read =>
        read.prepend (gap.text ++ [meant])
  | '\\' :: 'u' :: a :: b :: c :: d :: rest =>
    (hexChar? [a, b, c, d]).bind fun meant =>
      (readDoubleQuoted .empty (place.advance 6) rest).map fun read =>
        read.prepend (gap.text ++ [meant])
  | '\\' :: 'U' :: a :: b :: c :: d :: e :: f :: g :: h :: rest =>
    (hexChar? [a, b, c, d, e, f, g, h]).bind fun meant =>
      (readDoubleQuoted .empty (place.advance 10) rest).map fun read =>
        read.prepend (gap.text ++ [meant])
  | '\\' :: c :: rest =>
    if isBreak c then
      (readDoubleQuoted (.breaks none []) ((place.advance 1).nextLine c.utf8Size) rest).map
        fun read => read.prepend gap.text
    else
      (namedEscape? c).bind fun meant =>
        (readDoubleQuoted .empty (place.advance 2) rest).map fun read =>
          read.prepend (gap.text ++ [meant])
  | '\r' :: '\n' :: rest => readDoubleQuoted (gap.addBreak '\n') (place.nextLine 2) rest
  | c :: rest =>
    if isBreak c then
      readDoubleQuoted (gap.addBreak (meantBreak c)) (place.nextLine c.utf8Size) rest
    else if isBlank c then readDoubleQuoted (gap.addBlank c) (place.next c) rest
    else if c == '\\' || breaksQuoted place (c :: rest) then none
    else
      (readDoubleQuoted .empty (place.next c) rest).map fun read => read.prepend (gap.text ++ [c])

/-! ## Block scalars -/

/-- What happens to the line breaks at the end of a block scalar. -/
inductive Chomping where
  /-- All are dropped. -/
  | strip
  /-- The first one is kept. -/
  | clip
  /-- All are kept. -/
  | keep
deriving DecidableEq, Repr

/-- The header of a block scalar. -/
structure BlockHeader where
  /-- What happens to the line breaks at the end. -/
  chomping : Chomping := .clip
  /-- The indentation beyond that of the parent, if it is given. -/
  increment : Option Nat := none

/-- The chomping that a sign asks for. -/
def chompingOf? (c : Char) : Option Chomping :=
  if c == '+' then some .keep else if c == '-' then some .strip else none

/-- The indentation that a digit asks for; none when it is no digit. -/
def incrementOf? (c : Char) : Option Nat :=
  if '0' ≤ c && c ≤ '9' then some (c.toNat - 48) else none

/-- The two optional parts of a header in either order, and the rest. -/
def readHeader (place : Position) : List Char → BlockHeader × Position × List Char
  | c :: d :: rest =>
    match chompingOf? c, incrementOf? c with
    | some chomping, _ =>
      match incrementOf? d with
      | some increment => (⟨chomping, some increment⟩, place.advance 2, rest)
      | none => (⟨chomping, none⟩, place.advance 1, d :: rest)
    | none, some increment =>
      match chompingOf? d with
      | some chomping => (⟨chomping, some increment⟩, place.advance 2, rest)
      | none => (⟨.clip, some increment⟩, place.advance 1, d :: rest)
    | none, none => ({}, place, c :: d :: rest)
  | [c] =>
    match chompingOf? c, incrementOf? c with
    | some chomping, _ => (⟨chomping, none⟩, place.advance 1, [])
    | none, some increment => (⟨.clip, some increment⟩, place.advance 1, [])
    | none, none => ({}, place, [c])
  | [] => ({}, place, [])

/-- The end of the line of a header: blanks, a comment and the line break. -/
def endHeaderLine? (place : Position) (text : List Char) : Option (Position × List Char) :=
  let (place, text) := skipWhile isBlank place text
  let (place, text) :=
    if text.head? == some '#' then skipWhile (fun c => !isBreak c) place text else (place, text)
  match text with
  | [] => some (place, [])
  | text => (takeBreak? place text).map fun (_, place, rest) => (place, rest)

/-- The empty lines before a line of a block scalar: their breaks, the deepest column reached, and
the place where the line starts. `indent` is the indentation, if it is known; a tab may not stand in
it. -/
def readEmptyLines (indent : Option Nat) (deepest : Nat) (place : Position) :
    List Char → Option (List Char × Nat × Position × List Char)
  | '\r' :: '\n' :: rest =>
    (readEmptyLines indent (max deepest place.column) (place.nextLine 2) rest).map
      fun (breaks, found) => ('\n' :: breaks, found)
  | c :: rest =>
    let inIndent := indent.all fun width => place.column < width
    if inIndent && c == ' ' then readEmptyLines indent deepest (place.next c) rest
    else if inIndent && c == '\t' then none
    else if isBreak c then
      (readEmptyLines indent (max deepest place.column) (place.nextLine c.utf8Size) rest).map
        fun (breaks, found) => (meantBreak c :: breaks, found)
    else some ([], max deepest place.column, place, c :: rest)
  | [] => some ([], max deepest place.column, place, [])

/-- The line breaks that were read but not yet used. -/
structure PendingBreaks where
  /-- The break that ends the last line, if there is one. -/
  ending : List Char := []
  /-- The breaks of the empty lines after it. -/
  empty : List Char := []
  /-- Whether the last line started with a blank. -/
  afterBlank : Bool := false

/-- What pending breaks read as before a line. In a folded scalar a line feed between two lines that
start with words reads as a space, or falls away when empty lines follow. -/
def PendingBreaks.text (pending : PendingBreaks) (style : Style) (beforeBlank : Bool) :
    List Char :=
  (if style = .folded && pending.ending == ['\n'] && !pending.afterBlank && !beforeBlank then
    (if pending.empty.isEmpty then [' '] else [])
  else pending.ending) ++ pending.empty

/-- What pending breaks read as at the end of a scalar. -/
def PendingBreaks.chomped (pending : PendingBreaks) : Chomping → List Char
  | .strip => []
  | .clip => pending.ending
  | .keep => pending.ending ++ pending.empty

/-- Reads the lines of a block scalar with a known indentation. The fuel bounds the number of
lines. -/
def readLines (style : Style) (chomping : Chomping) (indent : Nat) :
    Nat → PendingBreaks → Position → List Char → Option ScalarRead
  | 0, _, _, _ => none
  | fuel + 1, pending, place, text =>
    match text with
    | [] => some ⟨pending.chomped chomping, place, [], false⟩
    | c :: _ =>
      if place.column ≠ indent then some ⟨pending.chomped chomping, place, text, false⟩
      else
        let (line, place, rest) := spanWhile (fun c => !isBreak c) place text
        let (ending, place, rest) := match takeBreak? place rest with
          | some (meant, place, rest) => ([meant], place, rest)
          | none => ([], place, rest)
        (readEmptyLines (some indent) 0 place rest).bind fun (empty, _, place, rest) =>
          (readLines style chomping indent fuel ⟨ending, empty, isBlank c⟩ place rest).map
            fun read => read.prepend (pending.text style (isBlank c) ++ line)

/-- Reads a block scalar after its mark. `parent` is the indentation of the block that holds it, if
there is one. Without a given indentation the first line decides it, but it is always more than that
of the parent. -/
def readBlock (style : Style) (parent : Option Nat) (place : Position) (text : List Char) :
    Option ScalarRead :=
  let (header, place, rest) := readHeader place text
  if header.increment == some 0 then none
  else
    (endHeaderLine? place rest).bind fun (place, rest) =>
      let least := match parent with
        | some width => width + 1
        | none => 1
      let given := header.increment.map fun increment => parent.getD 0 + increment
      (readEmptyLines given 0 place rest).bind fun (empty, deepest, place, rest) =>
        let indent := given.getD (max deepest least)
        readLines style header.chomping indent (rest.length + 1)
          { empty } place rest

end Sbom.Yaml
