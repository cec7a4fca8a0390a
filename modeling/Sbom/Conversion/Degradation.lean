import Sbom.Json.Value

/-!
# Degradations

A degradation is a piece of information that a conversion could not carry over. It never stops the
conversion; the entries are collected in document order and returned beside the result.
-/

namespace Sbom.Conversion

/-- The kinds of degradation. -/
inductive DegradationKind where
  /-- A digest algorithm that CycloneDX does not know. -/
  | unmappedHashAlgorithm
  /-- A purpose without a component type. -/
  | unrecognizedPurpose
  /-- A declared root beyond the first one. -/
  | extraRootElement
  /-- A declared root that is no node. -/
  | missingRootElement
  /-- A supplier beyond the first one. -/
  | extraSupplier
  /-- A relationship without a place in a tree. -/
  | unsupportedRelationship
  /-- A target that a dependency edge repeats. -/
  | duplicateDependencyTarget
  /-- A node that is no component. -/
  | unmappableNode
  /-- A node id that an earlier node has. -/
  | duplicateNodeId
  /-- An identifier that CycloneDX cannot carry. -/
  | droppedIdentifier
  /-- A CPE name hidden by one of a newer version. -/
  | shadowedCpe
  /-- A package URL that is none. -/
  | malformedPackageUrl
  /-- A link type outside the vocabulary. -/
  | nonStandardExternalReference
  /-- An edge whose source is attached elsewhere. -/
  | skippedEdge
  /-- A containment target that is attached elsewhere. -/
  | alreadyPlaced
  /-- A dependency record that names a cleared reference. -/
  | syntheticDependencyReference
deriving DecidableEq, Repr

namespace DegradationKind

/-- The written name of a kind. -/
def name : DegradationKind → String
  | .unmappedHashAlgorithm => "unmapped-hash-algorithm"
  | .unrecognizedPurpose => "unrecognized-purpose"
  | .extraRootElement => "extra-root-element"
  | .missingRootElement => "missing-root-element"
  | .extraSupplier => "extra-supplier"
  | .unsupportedRelationship => "unsupported-relationship"
  | .duplicateDependencyTarget => "duplicate-dependency-target"
  | .unmappableNode => "unmappable-node"
  | .duplicateNodeId => "duplicate-node-id"
  | .droppedIdentifier => "dropped-identifier"
  | .shadowedCpe => "shadowed-cpe"
  | .malformedPackageUrl => "malformed-package-url"
  | .nonStandardExternalReference => "non-standard-external-reference"
  | .skippedEdge => "skipped-edge"
  | .alreadyPlaced => "already-placed"
  | .syntheticDependencyReference => "synthetic-dependency-reference"

/-- The label of a kind in messages. -/
def label : DegradationKind → String
  | .unmappedHashAlgorithm => "unmapped hash algorithm"
  | .unrecognizedPurpose => "unrecognized primary purpose"
  | .extraRootElement => "extra root element"
  | .missingRootElement => "missing root element"
  | .extraSupplier => "extra supplier"
  | .unsupportedRelationship => "unsupported relationship"
  | .duplicateDependencyTarget => "duplicate dependency target"
  | .unmappableNode => "unmappable node"
  | .duplicateNodeId => "duplicate node id"
  | .droppedIdentifier => "dropped identifier"
  | .shadowedCpe => "shadowed CPE"
  | .malformedPackageUrl => "malformed package URL"
  | .nonStandardExternalReference => "non-standard external reference"
  | .skippedEdge => "skipped edge"
  | .alreadyPlaced => "already placed"
  | .syntheticDependencyReference => "synthetic dependency reference"

/-- All kinds. -/
def all : List DegradationKind := [
  .unmappedHashAlgorithm, .unrecognizedPurpose, .extraRootElement, .missingRootElement,
  .extraSupplier, .unsupportedRelationship, .duplicateDependencyTarget, .unmappableNode,
  .duplicateNodeId, .droppedIdentifier, .shadowedCpe, .malformedPackageUrl,
  .nonStandardExternalReference, .skippedEdge, .alreadyPlaced, .syntheticDependencyReference]

/-- The kind with a written name. -/
def ofName? (name : String) : Option DegradationKind :=
  all.find? fun kind => kind.name == name

end DegradationKind

/-- One piece of lost information. -/
structure Degradation where
  /-- The kind of loss. -/
  kind : DegradationKind
  /-- The node that lost it, if there is one. -/
  nodeId : Option String
  /-- What was lost. -/
  message : String
deriving DecidableEq, Repr

/-- The losses of a conversion, in order. -/
abbrev Report := List Degradation

/-- A loss at a node. -/
def Degradation.atNode (kind : DegradationKind) (nodeId message : String) : Degradation :=
  ⟨kind, some nodeId, message⟩

/-- A loss of the document as a whole. -/
def Degradation.ofDocument (kind : DegradationKind) (message : String) : Degradation :=
  ⟨kind, none, message⟩

/-- How a loss is shown. -/
def Degradation.shown (entry : Degradation) : String :=
  match entry.nodeId with
  | some id => "[" ++ entry.kind.label ++ "] node " ++ id ++ ": " ++ entry.message
  | none => "[" ++ entry.kind.label ++ "] " ++ entry.message

/-- The value form of a loss. -/
def Degradation.toJson (entry : Degradation) : Json :=
  .object (("kind", .string entry.kind.name) ::
    ((match entry.nodeId with
      | some id => [("node_id", .string id)]
      | none => []) ++ [("message", .string entry.message)]))

namespace Report

/-- The losses of one kind. -/
def ofKind (report : Report) (kind : DegradationKind) : Report :=
  report.filter fun entry => entry.kind = kind

/-- The value form of a report. -/
def toJson (report : Report) : Json :=
  .object [("entries", .array (report.map Degradation.toJson))]

end Report

/-- A line of the log. -/
inductive LogEvent where
  /-- A warning about one loss. -/
  | warning (kind node message : String)
  /-- The number of losses. -/
  | summary (count : Nat) (message : String)
deriving DecidableEq, Repr

/-- One warning for every loss. -/
def Report.warnings (report : Report) : List LogEvent :=
  report.map fun entry => .warning entry.kind.label (entry.nodeId.getD "") entry.message

/-- The summary of a report, if anything was lost. -/
def Report.summary (report : Report) : List LogEvent :=
  if report.isEmpty then []
  else [.summary report.length ("Conversion lost information in " ++
    Text.decimalText report.length ++
    " place(s); inspect the degradation report for details.")]

end Sbom.Conversion
