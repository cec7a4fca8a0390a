import Sbom.Calendar.Instant
import Sbom.CycloneDx.Component

/-!
# Bills of materials

A CycloneDX document: metadata with the root component, the top-level components and the dependency
records. The components of the root tree come before the top-level trees in every walk. The markers
of format and version are not part of a document; the encoder adds them.
-/

namespace Sbom.CycloneDx

/-- A phase of the life of a product. -/
inductive LifecyclePhase where
  /-- Design. -/
  | design
  /-- Before the build. -/
  | preBuild
  /-- The build. -/
  | build
  /-- After the build. -/
  | postBuild
  /-- Operation. -/
  | operations
  /-- Discovery. -/
  | discovery
  /-- Decommission. -/
  | decommission
  /-- A phase outside the standard set, by its name. -/
  | custom (name : String)
deriving DecidableEq, Repr

namespace LifecyclePhase

/-- The written name of a phase. -/
def name : LifecyclePhase → String
  | .design => "design"
  | .preBuild => "pre-build"
  | .build => "build"
  | .postBuild => "post-build"
  | .operations => "operations"
  | .discovery => "discovery"
  | .decommission => "decommission"
  | .custom name => name

/-- The phases of the standard set. -/
def standard : List LifecyclePhase := [
  .design, .preBuild, .build, .postBuild, .operations, .discovery, .decommission]

/-- The phase with a written name. -/
def ofName (name : String) : LifecyclePhase :=
  (standard.find? fun phase => phase.name == name).getD (.custom name)

end LifecyclePhase

/-- A stage of the life of the product that a document describes. -/
inductive Lifecycle where
  /-- A phase. -/
  | phase (phase : LifecyclePhase)
  /-- A stage in free text. -/
  | named (name description : String)
deriving DecidableEq, Repr

/-- A tool that took part in making a document. -/
structure Tool where
  /-- The vendor. -/
  vendor : String := ""
  /-- The name. -/
  name : String := ""
  /-- The version. -/
  version : String := ""
deriving DecidableEq, Repr

/-- What a document says about itself. -/
structure Metadata where
  /-- When it was made. -/
  timestamp : Option Calendar.Instant := none
  /-- The stages of life it describes. -/
  lifecycles : List Lifecycle := []
  /-- The tools that took part. -/
  tools : List Tool := []
  /-- Who made it. -/
  authors : List Contact := []
  /-- The root component. -/
  component : Option Component := none

/-- A dependency record: a reference and the references it depends on. -/
structure Dependency where
  /-- The reference that depends on others. -/
  ref : String
  /-- What it depends on. -/
  dependsOn : List String
deriving DecidableEq, Repr

/-- A CycloneDX document. -/
structure Bom where
  /-- The serial number; empty when there is none. -/
  serialNumber : String := ""
  /-- The version of the document. -/
  version : Nat := 1
  /-- What the document says about itself. -/
  metadata : Metadata := {}
  /-- The top-level components. -/
  components : List Component := []
  /-- The dependency records. -/
  dependencies : List Dependency := []

namespace Bom

/-- The trees of a document: the root tree, if there is one, and the top-level trees. -/
def trees (bom : Bom) : List Component :=
  bom.metadata.component.toList ++ bom.components

/-- Every component of a document in pre-order. -/
def walk (bom : Bom) : List Component :=
  Tree.preorderAll bom.trees

/-- Shows every component of a document to a visitor, those of the root tree first. -/
def visit {σ : Type} (visitor : σ → Component → σ) (state : σ) (bom : Bom) : σ :=
  match bom.metadata.component with
  | some root => Tree.visitAll visitor (root.visit visitor state) bom.components
  | none => Tree.visitAll visitor state bom.components

/-- The number of components of a document, counted on a visit. -/
def componentCount (bom : Bom) : Nat :=
  bom.visit (fun count _ => count + 1) 0

/-- The first component of a document with a reference. -/
def findComponent? (bom : Bom) (ref : String) : Option Component :=
  Tree.findAll? (fun details => details.ref == ref) bom.trees

/-- The first dependency record of a reference. -/
def dependency? (bom : Bom) (ref : String) : Option Dependency :=
  bom.dependencies.find? fun record => record.ref == ref

end Bom

end Sbom.CycloneDx
