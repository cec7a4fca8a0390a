import Sbom.Conversion.Header
import Sbom.Conversion.Relations
import Sbom.Conversion.Root
import Sbom.Settings.Basic

/-!
# Converting a document

A conversion registers the component of every node, resolves the root, maps the header, resolves the
edges, takes the root out of the registry and harvests what is left. Generated references are
cleared last. Failures stop the conversion; everything else that is lost is in the report, which in
strict mode must be empty.
-/

namespace Sbom.Conversion

open CycloneDx (Bom Component Dependency)
open Sbom.Graph (Document Node)
open Settings (Behavior)

/-- A converted document and what was lost. -/
structure Converted where
  /-- The document. -/
  bom : Bom
  /-- What was lost. -/
  report : Report

/-- Whether nothing was lost. -/
def Converted.isLossless (converted : Converted) : Bool :=
  converted.report.isEmpty

/-- Reports a node that is no component. -/
def unmappableNode (index : Nat) (node : Node) : Degradation :=
  .ofDocument .unmappableNode
    ("node #" ++ Text.decimalText index ++ " ('" ++ node.name ++ "') has no id and was skipped")

/-- Reports a node whose id is taken. -/
def duplicateNode (index : Nat) (node : Node) : Degradation :=
  .atNode .duplicateNodeId node.id
    ("node #" ++ Text.decimalText index ++ " reuses an id, the earlier node was kept")

/-- Registers one node: the registry after it and what is reported. -/
def registerNode (index : Nat) (node : Node) (registry : Registry) : Registry × Report :=
  match mapNode node with
  | none => (registry, [unmappableNode index node])
  | some (component, report) =>
    match registry.register component with
    | (registry, true) => (registry, report)
    | (registry, false) => (registry, report ++ [duplicateNode index node])

/-- Registers nodes in order, the first of them with the given index. -/
def registerNodesFrom (interrupt : Interrupt) :
    Nat → List Node → Registry → Except Failure (Registry × Report)
  | _, [], registry => .ok (registry, [])
  | index, node :: rest, registry => do
    interrupt.check "registry population"
    let (registry, report) := registerNode index node registry
    let (registry, later) ← registerNodesFrom interrupt (index + 1) rest registry
    return (registry, report ++ later)

/-- Registers all nodes of a document. -/
def registerNodes (interrupt : Interrupt) (nodes : List Node) :
    Except Failure (Registry × Report) :=
  registerNodesFrom interrupt 0 nodes {}

/-- The root component as the edges left it. -/
def finalRoot (registry : Registry) (resolved : Option Component) :
    Registry × Option Component :=
  match resolved with
  | none => (registry, none)
  | some asResolved =>
    let (registry, current) := registry.takeRoot
    (registry, some (current.getD asResolved))

/-- The conversion before generated references are cleared. -/
def assemble (interrupt : Interrupt) (document : Document) : Except Failure Converted := do
  let (registry, nodeReport) ← registerNodes interrupt document.nodeList.nodes
  let (registry, resolved, rootReport) := resolveRoot registry document.nodeList.rootElements
  let metadata ← documentMetadata document.metadata
  let step := resolveEdges interrupt document.nodeList.edges registry
  let dependencies ← step.result
  let (registry, root) := finalRoot step.registry resolved
  return {
    bom := {
      serialNumber := document.metadata.id
      version := documentVersion document.metadata
      metadata := { metadata with component := applyName root document.metadata.name }
      components := registry.harvest
      dependencies := dependencies }
    report := nodeReport ++ rootReport ++ step.report }

/-- The conversion with every generated reference cleared from its components. -/
def clearGenerated (mark : String) (converted : Converted) : Converted :=
  let bom := converted.bom
  { bom := { bom with
      metadata := { bom.metadata with
        component := bom.metadata.component.map (Tree.map (clearGeneratedRef mark)) }
      components := (clearGeneratedRefs mark bom.components).1 }
    report := converted.report ++ generatedRefReport mark bom.dependencies }

/-- The conversion of a document before strict mode is applied. -/
def convertLeniently (behavior : Behavior) (interrupt : Interrupt) (document : Document) :
    Except Failure Converted := do
  let converted ← assemble interrupt document
  return if behavior.clearGeneratedRefs then clearGenerated behavior.generatedMark converted
    else converted

/-- In strict mode, a conversion that lost something fails with its first loss. -/
def applyStrict (strict : Bool) (converted : Converted) : Except Failure Converted :=
  match converted.report with
  | [] => .ok converted
  | first :: rest =>
    if strict then .error (.degraded (rest.length + 1) first.shown) else .ok converted

/-- Converts a document. -/
def convert (behavior : Behavior) (interrupt : Interrupt) (document : Document) :
    Except Failure Converted := do
  let converted ← convertLeniently behavior interrupt document
  applyStrict behavior.strict converted

/-- What a conversion logs: every loss if the behaviour asks for it, then the summary. A conversion
that fails before its report is complete logs nothing. -/
def convertLog (behavior : Behavior) (interrupt : Interrupt) (document : Document) :
    List LogEvent :=
  match convertLeniently behavior interrupt document with
  | .error _ => []
  | .ok converted =>
    (if behavior.logDegradations then converted.report.warnings else []) ++
      converted.report.summary

end Sbom.Conversion
