import Sbom.Yaml.Character

/-!
# Folding lines

A scalar that goes over several lines is folded: blanks around a line break do not count, a single
line feed reads as a space, and of several breaks the first one falls away if it is a line feed. A
gap is what stands between two words of a scalar, and its text is what the gap reads as.
-/

namespace Sbom.Yaml

/-- What was read since the last word of a scalar. -/
inductive Gap where
  /-- Nothing. -/
  | empty
  /-- Blanks on the same line. -/
  | blanks (text : List Char)
  /-- Line breaks: the first one, which is missing where it was escaped, and the further ones. -/
  | breaks (first : Option Char) (further : List Char)
deriving DecidableEq, Repr

namespace Gap

/-- The gap with one more blank; after a line break blanks do not count. -/
def addBlank (gap : Gap) (c : Char) : Gap :=
  match gap with
  | .empty => .blanks [c]
  | .blanks text => .blanks (text ++ [c])
  | .breaks first further => .breaks first further

/-- The gap with one more line break; blanks before the first one do not count. -/
def addBreak (gap : Gap) (c : Char) : Gap :=
  match gap with
  | .breaks first further => .breaks first (further ++ [c])
  | _ => .breaks (some c) []

/-- What a gap reads as. -/
def text : Gap → List Char
  | .empty => []
  | .blanks text => text
  | .breaks none further => further
  | .breaks (some first) further =>
    if first = '\n' then (if further.isEmpty then [' '] else further) else first :: further

/-- Whether a gap has no characters. -/
def isEmpty : Gap → Bool
  | .empty => true
  | _ => false

/-- Whether a gap goes over a line break. -/
def crossesLine : Gap → Bool
  | .breaks _ _ => true
  | _ => false

end Gap

end Sbom.Yaml
