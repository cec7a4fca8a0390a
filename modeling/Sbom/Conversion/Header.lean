import Sbom.Conversion.Mapping
import Sbom.CycloneDx.Bom
import Sbom.Failure
import Sbom.Graph.Document
import Sbom.Number.Word

/-!
# The header of a document

What a document says about itself: its classifications become stages of life, its version becomes a
number, and its name becomes the name of the root component.
-/

namespace Sbom.Conversion

open Sbom.Graph (DocumentKind DocumentType)
open CycloneDx (Component Lifecycle LifecyclePhase)

/-- The phase that a known classification stands for. The classification `OTHER` stands for the phase
that its name gives in lower case. -/
def lifecyclePhase (entry : DocumentType) (kind : DocumentKind) : Except Failure LifecyclePhase :=
  match kind with
  | .build => .ok .build
  | .design => .ok .design
  | .analyzed => .ok .postBuild
  | .source => .ok .preBuild
  | .decommission => .ok .decommission
  | .deployed => .ok .operations
  | .discovery => .ok .discovery
  | .other =>
    let name := Text.trim (entry.name.getD "")
    if name.isEmpty then
      .error (.unsupportedValue "document type OTHER without a name" kind.name)
    else .ok (.custom (Text.lowercase name))
  | .unrecognized => .error (.unsupportedValue "document type" (entry.name.getD kind.name))

/-- The stage of life that a classification stands for. -/
def lifecycle (entry : DocumentType) : Except Failure Lifecycle :=
  match entry.kind with
  | some kind => (lifecyclePhase entry kind).map .phase
  | none => .ok (.named (entry.name.getD "") (entry.description.getD ""))

/-- The stages of life of a document; the first classification without one decides the failure. -/
def lifecycles : List DocumentType → Except Failure (List Lifecycle)
  | [] => .ok []
  | entry :: rest => do
    let stage ← lifecycle entry
    let stages ← lifecycles rest
    return stage :: stages

/-- The metadata of a document without the root component. -/
def documentMetadata (metadata : Graph.Metadata) : Except Failure CycloneDx.Metadata := do
  let stages ← lifecycles metadata.documentTypes
  return {
    timestamp := metadata.date
    lifecycles := stages
    tools := metadata.tools.map fun tool => ⟨tool.vendor, tool.name, tool.version⟩
    authors := metadata.authors.map contact
    component := none }

/-- The version number of a document: the positive number of at most 32 bits that its version
writes, white space aside, or one. -/
def documentVersion (metadata : Graph.Metadata) : Nat :=
  match Number.Word.parse? (Text.trimmed metadata.version.toList) with
  | some word => if word = 0 then 1 else word.toNat
  | none => 1

/-- Lets a name that is not empty take the place of the name of the root component; without a root
component a bare one is made. -/
def applyName (root : Option Component) (name : String) : Option Component :=
  if name.isEmpty then root
  else
    match root with
    | some component => some (component.rename name)
    | none => some (.bare "" name)

end Sbom.Conversion
