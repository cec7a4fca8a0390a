import Sbom.Conversion.Degradation
import Sbom.Conversion.Interrupt
import Sbom.Conversion.Registry
import Sbom.CycloneDx.Bom
import Sbom.Graph.Document

/-!
# From edges to nesting and dependencies

Edges are resolved strictly in document order. A containment edge copies the current component of
each target into its source; a dependency edge gives one dependency record; every other edge is only
reported. An edge whose source is already placed, and is not the root, is skipped. Each edge adds
its own block to the report. A resolution that fails leaves the registry as the steps before the
failure made it.
-/

namespace Sbom.Conversion

open CycloneDx (Dependency)
open Sbom.Graph (Edge)

/-- What one step of the resolution does: the registry it leaves, what it reports, and its result or
failure. -/
structure Step (α : Type) where
  /-- The registry after the step. -/
  registry : Registry
  /-- What the step reports. -/
  report : Report
  /-- The result of the step. -/
  result : Except Failure α

/-- Reports that a target cannot be nested under a source. -/
def alreadyPlaced (source target : String) : Degradation :=
  .atNode .alreadyPlaced target ("already attached, not nested under '" ++ source ++ "'")

/-- Nests each target under the source, in order. A target that is the source itself or already part
of the tree is reported; a target that is not registered ends the step. -/
def attachTargets (source : String) : List String → Registry → Step Unit
  | [], registry => ⟨registry, [], .ok ()⟩
  | target :: rest, registry =>
    match registry.component target with
    | .error failure => ⟨registry, [], .error (failure.within "containment target")⟩
    | .ok child =>
      if target = source ∨ registry.isMaterialized target then
        let later := attachTargets source rest registry
        { later with report := alreadyPlaced source target :: later.report }
      else
        attachTargets source rest ((registry.place target .nested).1.addChild source child)

/-- Reports a target that a dependency edge repeats. -/
def duplicateTarget (source target : String) : Degradation :=
  .atNode .duplicateDependencyTarget source
    ("duplicate dependency target '" ++ target ++ "' ignored")

/-- The distinct targets of a dependency edge in first-seen order, and the report of the repeated
ones. `seen` holds the targets so far. A new target has to be registered. -/
def distinctTargets (registry : Registry) (source : String) :
    List String → List String → Report × Except Failure (List String)
  | [], _ => ([], .ok [])
  | target :: rest, seen =>
    if seen.contains target then
      let (report, targets) := distinctTargets registry source rest seen
      (duplicateTarget source target :: report, targets)
    else if registry.contains target then
      let (report, targets) := distinctTargets registry source rest (target :: seen)
      (report, targets.map (target :: ·))
    else ([], .error (.lookup "dependency target" target))

/-- Places each target as the target of a dependency. -/
def placeTargets (targets : List String) (registry : Registry) : Registry :=
  targets.foldl (fun registry target => (registry.place target .dependencyTarget).1) registry

/-- The dependency record of an edge. Targets are placed only when all of them are registered. -/
def recordDependency (edge : Edge) (registry : Registry) : Step (Option Dependency) :=
  match distinctTargets registry edge.source edge.targets [] with
  | (report, .ok targets) =>
    ⟨placeTargets targets registry, report, .ok (some ⟨edge.source, targets⟩)⟩
  | (report, .error failure) => ⟨registry, report, .error failure⟩

/-- Reports an edge without a place in a tree. -/
def unsupportedEdge (edge : Edge) : Degradation :=
  .atNode .unsupportedRelationship edge.source
    ("relationship '" ++ edge.kind.name ++ "' has no tree representation")

/-- Resolves an edge that is not skipped. -/
def resolveEdge (edge : Edge) (registry : Registry) : Step (Option Dependency) :=
  if registry.contains edge.source then
    match edge.kind with
    | .contains =>
      let step := attachTargets edge.source edge.targets registry
      ⟨step.registry, step.report, step.result.map fun _ => none⟩
    | .dependsOn => recordDependency edge registry
    | _ => ⟨registry, [unsupportedEdge edge], .ok none⟩
  else ⟨registry, [], .error (.lookup "edge source" edge.source)⟩

/-- Whether an edge is skipped: its source is placed and is not the root. -/
def isSkipped (edge : Edge) (registry : Registry) : Bool :=
  registry.isPlaced edge.source && !registry.isRoot edge.source

/-- Reports a skipped edge. -/
def skippedEdge (edge : Edge) : Degradation :=
  .atNode .skippedEdge edge.source
    ("source is already attached elsewhere, edge '" ++ edge.shown ++ "' was skipped")

/-- The name of an edge in a failure. -/
def edgeContext (index : Nat) (edge : Edge) : String :=
  "edge #" ++ Text.decimalText index ++ " (" ++ edge.shown ++ ")"

/-- One edge: stopped from outside, skipped, or resolved. -/
def edgeStep (interrupt : Interrupt) (index : Nat) (edge : Edge) (registry : Registry) :
    Step (Option Dependency) :=
  match interrupt.check "relationship resolution" with
  | .error failure => ⟨registry, [], .error failure⟩
  | .ok () =>
    if isSkipped edge registry then ⟨registry, [skippedEdge edge], .ok none⟩
    else
      let step := resolveEdge edge registry
      { step with result := inContext (edgeContext index edge) step.result }

/-- Resolves edges in order, the first of them with the given index, up to the first failure. -/
def resolveEdgesFrom (interrupt : Interrupt) :
    Nat → List Edge → Registry → Step (List Dependency)
  | _, [], registry => ⟨registry, [], .ok []⟩
  | index, edge :: rest, registry =>
    let step := edgeStep interrupt index edge registry
    match step.result with
    | .error failure => ⟨step.registry, step.report, .error failure⟩
    | .ok record =>
      let later := resolveEdgesFrom interrupt (index + 1) rest step.registry
      ⟨later.registry, step.report ++ later.report, later.result.map (record.toList ++ ·)⟩

/-- Resolves edges in order, the first of them with the given index, up to the first failure. What
may stop the resolution is given for the moment before each index. -/
def resolveEdgesUnder (interrupts : Nat → Interrupt) :
    Nat → List Edge → Registry → Step (List Dependency)
  | _, [], registry => ⟨registry, [], .ok []⟩
  | index, edge :: rest, registry =>
    let step := edgeStep (interrupts index) index edge registry
    match step.result with
    | .error failure => ⟨step.registry, step.report, .error failure⟩
    | .ok record =>
      let later := resolveEdgesUnder interrupts (index + 1) rest step.registry
      ⟨later.registry, step.report ++ later.report, later.result.map (record.toList ++ ·)⟩

/-- Resolves all edges of a document: the dependency records in edge order, or the first failure. -/
def resolveEdges (interrupt : Interrupt) (edges : List Edge) (registry : Registry) :
    Step (List Dependency) :=
  resolveEdgesFrom interrupt 0 edges registry

end Sbom.Conversion
