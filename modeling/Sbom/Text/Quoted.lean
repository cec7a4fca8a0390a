import Sbom.Text.CodeRanges
import Sbom.Text.Hex
import Sbom.Text.Quoted.Table

/-!
# Text shown in a message

A message that blames a text shows it so that every character can be seen: quotes and the common
controls have short escapes, and characters without a visible form are written by code point. A
character that would combine with the opening quote is escaped as well, so only at the start.
-/

namespace Sbom.Text

/-- Whether a character has a visible form. -/
def isPrintable (c : Char) : Bool :=
  let code := c.toNat
  if code < 0x80 then 0x20 ≤ code && code < 0x7F else !inRanges unprintableRanges code

/-- Whether a character extends the one before it. -/
def extendsGrapheme (c : Char) : Bool :=
  inRanges graphemeExtendRanges c.toNat

/-- A character by its code point. -/
def codePointEscape (c : Char) : List Char :=
  '\\' :: 'u' :: '\x7b' :: (hexDigits c.toNat ++ ['\x7d'])

/-- How one character is shown; `leading` says that nothing of the text precedes it. -/
def showChar (leading : Bool) (c : Char) : List Char :=
  match c.toNat with
  | 0x00 => ['\\', '0']
  | 0x09 => ['\\', 't']
  | 0x0D => ['\\', 'r']
  | 0x0A => ['\\', 'n']
  | 0x27 => ['\\', c]
  | 0x22 => ['\\', c]
  | 0x5C => ['\\', c]
  | _ =>
    if leading && extendsGrapheme c then codePointEscape c
    else if isPrintable c then [c]
    else codePointEscape c

/-- How a text is shown in a message. -/
def shown (text : String) : String :=
  match text.toList with
  | [] => ""
  | c :: rest => String.ofList (showChar true c ++ rest.flatMap (showChar false))

/-- How one character is shown between double quotes, where a single quote is no end. -/
def showCharQuoted (c : Char) : List Char :=
  if c.toNat = 0x27 then [c] else showChar true c

/-- How a text is shown between double quotes. Every character that would combine with the one
before it is escaped. -/
def shownQuoted (text : String) : String :=
  String.ofList ('\x22' :: (text.toList.flatMap showCharQuoted ++ ['\x22']))

/-- A text between back quotes. -/
def backQuoted (text : String) : String :=
  "`" ++ text ++ "`"

end Sbom.Text
