import Sbom.CycloneDx.ValueForm
import Sbom.Failure
import Sbom.Text.Quoted
import Sbom.Xml.Element

/-!
# Defects

What keeps a document from being written. In any encoding no two components may share a reference
that is not empty, and every dependency record needs a reference. In XML, moreover, every character
of every string must be one that XML 1.0 can carry. The first defect is the one reported; for
characters, the strings are met in the order of the value form with its member names sorted.
-/

namespace Sbom.CycloneDx

/-- What keeps a document from being written. -/
inductive Defect where
  /-- Two components have the same reference. -/
  | duplicateRef (ref : String)
  /-- The dependency record at an index has no reference. -/
  | emptyDependencyRef (index : Nat)
  /-- A string has a character that XML cannot carry. -/
  | unwritableChar (c : Char) (text : String)
deriving DecidableEq, Repr

/-- The wording of a defect. -/
def Defect.message : Defect → String
  | .duplicateRef ref => "duplicate bom-ref '" ++ ref ++ "'"
  | .emptyDependencyRef index =>
    "dependency #" ++ Text.decimalText index ++ " has an empty ref"
  | .unwritableChar c text =>
    "character U+" ++ String.ofList (Text.hexUpperPadded 4 c.toNat) ++ " in '" ++
      Text.shown text ++ "' cannot be written as XML"

/-- A defect as the cause of a failure. -/
def Defect.cause (defect : Defect) : EncodingCause :=
  .invalidDocument defect.message

/-- The first reference that is not empty and occurs before; `seen` holds the earlier ones. -/
def firstRepeated? (seen : List String) : List String → Option String
  | [] => none
  | ref :: rest =>
    if ref.isEmpty then firstRepeated? seen rest
    else if seen.contains ref then some ref
    else firstRepeated? (ref :: seen) rest

/-- The index of the first dependency record without a reference, the first record having the given
index. -/
def firstEmptyRef? (index : Nat) : List Dependency → Option Nat
  | [] => none
  | record :: rest => if record.ref.isEmpty then some index else firstEmptyRef? (index + 1) rest

/-- The references of all components of a document in pre-order. -/
def Bom.refs (bom : Bom) : List String :=
  (Tree.valuesAll bom.trees).map ComponentDetails.ref

/-- The defect that keeps a document from being written in any encoding. -/
def Bom.structuralDefect? (bom : Bom) : Option Defect :=
  match firstRepeated? [] bom.refs with
  | some ref => some (.duplicateRef ref)
  | none => (firstEmptyRef? 0 bom.dependencies).map .emptyDependencyRef

/-- Members in ascending order of their names. -/
def sortedMembers (members : List (String × Json)) : List (String × Json) :=
  members.mergeSort fun left right => left.1 ≤ right.1

mutual

/-- The value with the members of every object in ascending order of their names. -/
def sortedValue : Json → Json
  | .array items => .array (sortedValues items)
  | .object members => .object (sortedMembers (sortedMemberValues members))
  | .null => .null
  | .bool value => .bool value
  | .number value => .number value
  | .string value => .string value

/-- The values with the members of every object in ascending order of their names. -/
def sortedValues : List Json → List Json
  | [] => []
  | item :: rest => sortedValue item :: sortedValues rest

/-- The members with the members of every object in them in ascending order of their names. -/
def sortedMemberValues : List (String × Json) → List (String × Json)
  | [] => []
  | (name, value) :: rest => (name, sortedValue value) :: sortedMemberValues rest

end

mutual

/-- The strings of a value in order. -/
def stringsOf : Json → List String
  | .string value => [value]
  | .array items => stringsOfAll items
  | .object members => stringsOfMembers members
  | .null => []
  | .bool _ => []
  | .number _ => []

/-- The strings of several values in order. -/
def stringsOfAll : List Json → List String
  | [] => []
  | item :: rest => stringsOf item ++ stringsOfAll rest

/-- The strings of the values of several members in order. -/
def stringsOfMembers : List (String × Json) → List String
  | [] => []
  | (_, value) :: rest => stringsOf value ++ stringsOfMembers rest

end

/-- The first character of a string that XML cannot carry. -/
def unwritableChar? (text : String) : Option Char :=
  text.toList.find? fun c => !Xml.isXmlChar c

/-- The defect that keeps a document from being written as XML, its structure aside. -/
def Bom.characterDefect? (bom : Bom) : Option Defect :=
  (stringsOf (sortedValue bom.toJson)).findSome? fun text =>
    (unwritableChar? text).map fun c => .unwritableChar c text

end Sbom.CycloneDx
