import Sbom.Conversion.Degradation
import Sbom.CycloneDx.Bom

/-!
# Generated references

References that were generated when the graph was made start with a known mark, and their first
segment, up to the first double hyphen, contains `-auto`. They can be cleared from components, also
in one pass that counts them; dependency records keep them and are reported.
-/

namespace Sbom.Conversion

open CycloneDx (Component ComponentDetails Dependency)

/-- The mark of generated references, unless another one is configured. -/
def defaultGeneratedMark : String := "protobom-"

/-- The part of a text before its first double hyphen. -/
def firstSegment : List Char → List Char
  | [] => []
  | '-' :: '-' :: _ => []
  | c :: rest => c :: firstSegment rest

/-- Whether a text contains another one. -/
def containsText (part : List Char) : List Char → Bool
  | [] => part.isEmpty
  | c :: rest => part.isPrefixOf (c :: rest) || containsText part rest

/-- Whether a reference was generated under the given mark. -/
def isGeneratedRef (ref mark : String) : Bool :=
  !mark.isEmpty && mark.toList.isPrefixOf ref.toList &&
    containsText ['-', 'a', 'u', 't', 'o'] (firstSegment ref.toList)

/-- What is known of a component, with a generated reference cleared. -/
def clearGeneratedRef (mark : String) (details : ComponentDetails) : ComponentDetails :=
  if isGeneratedRef details.ref mark then { details with ref := "" } else details

/-- The number of generated references in several trees. -/
def countGeneratedRefs (mark : String) (components : List Component) : Nat :=
  ((Tree.valuesAll components).filter fun details => isGeneratedRef details.ref mark).length

/-- The trees with every generated reference cleared, and how many there were. -/
def clearGeneratedRefs (mark : String) (components : List Component) : List Component × Nat :=
  (Tree.mapAll (clearGeneratedRef mark) components, countGeneratedRefs mark components)

mutual

/-- Clears the generated references of a tree, its root first, and goes on counting them. -/
def clearTree (mark : String) (cleared : Nat) : Component → Component × Nat
  | .node details children =>
    let counted := if isGeneratedRef details.ref mark then cleared + 1 else cleared
    -- The components below have a count of their own.
    let below := clearTrees mark 0 children
    (.node (clearGeneratedRef mark details) below.1, counted + below.2)

/-- Clears the generated references of several trees, one tree after the other. -/
def clearTrees (mark : String) (cleared : Nat) : List Component → List Component × Nat
  | [] => ([], cleared)
  | tree :: rest =>
    let first := clearTree mark cleared tree
    let later := clearTrees mark first.2 rest
    (first.1 :: later.1, later.2)

end

/-- The generated references that a dependency record names, its own first. -/
def generatedRefsOf (mark : String) (record : Dependency) : List String :=
  (record.ref :: record.dependsOn).filter fun ref => isGeneratedRef ref mark

/-- Reports the dependency records that name generated references. -/
def generatedRefReport (mark : String) (records : List Dependency) : Report :=
  records.filterMap fun record =>
    match generatedRefsOf mark record with
    | [] => none
    | refs => some (.atNode .syntheticDependencyReference record.ref
      ("dependency record names generated reference(s) " ++ ", ".intercalate refs ++
        " that no component carries"))

end Sbom.Conversion
