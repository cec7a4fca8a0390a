import Sbom.Yaml.Character

/-!
# Positions in a text

Where a reader stands: the line, the column in it, and the number of bytes before. Columns count
characters and decide the nesting of blocks; lines and offsets bound how far an implicit key may
reach, and offsets count the bytes of UTF-8.
-/

namespace Sbom.Yaml

/-- A position in a text. -/
structure Position where
  /-- The number of lines before. -/
  line : Nat := 0
  /-- The number of characters before on the line. -/
  column : Nat := 0
  /-- The number of bytes before. -/
  offset : Nat := 0
deriving DecidableEq, Repr

namespace Position

/-- The position after some ASCII characters on the same line. -/
def advance (place : Position) (count : Nat) : Position :=
  { place with column := place.column + count, offset := place.offset + count }

/-- The position after a character on the same line. -/
def next (place : Position) (c : Char) : Position :=
  { place with column := place.column + 1, offset := place.offset + c.utf8Size }

/-- The position after a line break of the given number of bytes. -/
def nextLine (place : Position) (size : Nat) : Position :=
  ⟨place.line + 1, 0, place.offset + size⟩

end Position

/-- A line break at the start of a text: what it stands for, the position after it and the rest. -/
def takeBreak? (place : Position) : List Char → Option (Char × Position × List Char)
  | '\r' :: '\n' :: rest => some ('\n', place.nextLine 2, rest)
  | c :: rest => if isBreak c then some (meantBreak c, place.nextLine c.utf8Size, rest) else none
  | [] => none

/-- Skips the characters at the start of a text that satisfy a test, none of them a line break. -/
def skipWhile (test : Char → Bool) (place : Position) : List Char → Position × List Char
  | [] => (place, [])
  | c :: rest => if test c then skipWhile test (place.next c) rest else (place, c :: rest)

/-- The characters at the start of a text that satisfy a test, the position after them and the
rest. -/
def spanWhile (test : Char → Bool) (place : Position) (text : List Char) :
    List Char × Position × List Char :=
  let word := text.takeWhile test
  (word, word.foldl Position.next place, text.dropWhile test)

end Sbom.Yaml
