import Sbom.Text.CodeRanges
import Sbom.Text.LowerCase.Table

/-!
# Lower case

Full Unicode lower-casing, independent of language. Two letters need more than a table: the dotted
capital I becomes two characters, and a capital sigma is written in its final form at the end of a
word.
-/

namespace Sbom.Text

/-- The small letter of a single capital, and any other character itself. -/
def lowerSimple (c : Char) : Char :=
  if c.toNat < 0x80 then
    if 'A' ≤ c ∧ c ≤ 'Z' then Char.ofNat (c.toNat + 32) else c
  else
    match lowerRuns.find? fun run =>
        run.first ≤ c.toNat && c.toNat ≤ run.last && (c.toNat - run.first) % run.stride == 0 with
    | some run => Char.ofNat (Int.toNat (c.toNat + run.offset))
    | none => c

/-- Whether a character is skipped when the neighbours of a sigma are sought. -/
def isCaseIgnorable (c : Char) : Bool :=
  inRanges caseIgnorableRanges c.toNat

/-- Whether a character is a letter with case. -/
def isCased (c : Char) : Bool :=
  inRanges casedRanges c.toNat

/-- Whether the first character that counts is a letter with case. -/
def startsCased (text : List Char) : Bool :=
  match text.dropWhile isCaseIgnorable with
  | [] => false
  | c :: _ => isCased c

/-- Lower-cases a text that follows `before`, which is given in reverse. A capital sigma is final
when a cased letter precedes it and none follows. -/
def lowerAfter (before : List Char) : List Char → List Char
  | [] => []
  | c :: rest =>
    let small :=
      if c.toNat == 0x3A3 then
        if startsCased before && !startsCased rest then [Char.ofNat 0x3C2] else [Char.ofNat 0x3C3]
      else if c.toNat == 0x130 then [Char.ofNat 0x69, Char.ofNat 0x307]
      else [lowerSimple c]
    small ++ lowerAfter (c :: before) rest

/-- The lower-case form of a string. -/
def lowercase (text : String) : String :=
  String.ofList (lowerAfter [] text.toList)

end Sbom.Text
