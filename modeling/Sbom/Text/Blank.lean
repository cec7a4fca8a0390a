/-!
# White space

White space is the Unicode property `White_Space`: the ASCII controls from tab to carriage return,
the space, and the separators beyond ASCII. The zero-width space U+200B is not part of it.
-/

namespace Sbom.Text

/-- Whether a character has the Unicode property `White_Space`. -/
def isBlank (c : Char) : Bool :=
  let code := c.toNat
  (9 ≤ code && code ≤ 13) || code == 0x20 || code == 0x85 || code == 0xA0 || code == 0x1680 ||
    (0x2000 ≤ code && code ≤ 0x200A) || code == 0x2028 || code == 0x2029 || code == 0x202F ||
    code == 0x205F || code == 0x3000

/-- The text without its leading white space. -/
def trimStart (text : List Char) : List Char :=
  text.dropWhile isBlank

/-- The text without its trailing white space. -/
def trimEnd (text : List Char) : List Char :=
  (text.reverse.dropWhile isBlank).reverse

/-- The text without white space at either end. -/
def trimmed (text : List Char) : List Char :=
  trimEnd (trimStart text)

/-- A string without white space at either end. -/
def trim (text : String) : String :=
  String.ofList (trimmed text.toList)

/-- Whether a string holds white space only. -/
def isAllBlank (text : String) : Bool :=
  text.toList.all isBlank

/-- The number of maximal runs of characters other than white space. `inside` says whether the
text continues such a run. -/
def countRuns (inside : Bool) : List Char → Nat
  | [] => 0
  | c :: rest =>
    if isBlank c then countRuns false rest
    else if inside then countRuns true rest
    else countRuns true rest + 1

/-- The number of words of a text, that is of its runs between white space. -/
def wordCount (text : List Char) : Nat :=
  countRuns false text

end Sbom.Text
