/-!
# Characters of YAML text

The classes of characters that YAML distinguishes. Two classes differ on purpose: a reader accepts
tabs and carriage returns, while a writer shows them by escapes.
-/

namespace Sbom.Yaml

/-- Whether a character is a blank inside a line. -/
def isBlank (c : Char) : Bool :=
  c == ' ' || c == '\t'

/-- Whether a character ends a line. -/
def isBreak (c : Char) : Bool :=
  c == '\n' || c == '\r' || c.toNat == 0x85 || c.toNat == 0x2028 || c.toNat == 0x2029

/-- The line break that a character stands for in a scalar: the two separators beyond the basic
controls keep their identity, and all other breaks are line feeds. -/
def meantBreak (c : Char) : Char :=
  if c.toNat == 0x2028 || c.toNat == 0x2029 then c else '\n'

/-- Whether a text ends, or goes on with a blank or a line break. -/
def startsBlank : List Char → Bool
  | [] => true
  | c :: _ => isBlank c || isBreak c

/-- Whether a character may stand in YAML text. -/
def isReadable (c : Char) : Bool :=
  let code := c.toNat
  code == 0x9 || code == 0xA || code == 0xD || (0x20 ≤ code && code ≤ 0x7E) || code == 0x85 ||
    (0xA0 ≤ code && code ≤ 0xD7FF) || (0xE000 ≤ code && code ≤ 0xFFFD) || 0x10000 ≤ code

/-- Whether a writer puts a character down as it is. -/
def isPrintable (c : Char) : Bool :=
  let code := c.toNat
  code == 0xA || (0x20 ≤ code && code ≤ 0x7E) || (0xA0 ≤ code && code ≤ 0xD7FF) ||
    (0xE000 ≤ code && code ≤ 0xFFFD && code != 0xFEFF) || 0x10000 ≤ code

/-- The mark that may stand at the start of a line. -/
def isByteOrderMark (c : Char) : Bool :=
  c.toNat == 0xFEFF

/-- Whether a character may stand in the name of an anchor or a handle. -/
def isNameChar (c : Char) : Bool :=
  ('a' ≤ c && c ≤ 'z') || ('A' ≤ c && c ≤ 'Z') || ('0' ≤ c && c ≤ '9') || c == '_' || c == '-'

/-- Whether a line starts with one of the two marks between documents. -/
def startsDocumentMark : List Char → Bool
  | '-' :: '-' :: '-' :: rest => startsBlank rest
  | '.' :: '.' :: '.' :: rest => startsBlank rest
  | _ => false

end Sbom.Yaml
