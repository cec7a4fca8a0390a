import Sbom.CycloneDx.Bom
import Sbom.CycloneDx.SpecVersion

/-!
# Writing for older versions

Versions before 1.5 know neither lifecycles nor four of the component types. A document written for
them loses its lifecycles, and components of those types lose their type.
-/

namespace Sbom.CycloneDx

/-- Whether a component type came with version 1.5. -/
def ComponentType.isRecent : ComponentType → Bool
  | .data | .deviceDriver | .machineLearningModel | .platform => true
  | _ => false

/-- Whether a component has a type that came with version 1.5. -/
def ComponentDetails.hasRecentType (details : ComponentDetails) : Bool :=
  details.type.any ComponentType.isRecent

/-- What is known of a component, without a type that came with version 1.5. -/
def ComponentDetails.withoutRecentType (details : ComponentDetails) : ComponentDetails :=
  if details.hasRecentType then { details with type := none } else details

namespace Bom

/-- Whether a document has something that versions before 1.5 do not know. -/
def hasRecentParts (bom : Bom) : Bool :=
  !bom.metadata.lifecycles.isEmpty ||
    Tree.anyValueAll ComponentDetails.hasRecentType bom.trees

/-- The document without what versions before 1.5 do not know. -/
def withoutRecentParts (bom : Bom) : Bom :=
  { bom with
    metadata := { bom.metadata with
      lifecycles := []
      component := bom.metadata.component.map (Tree.map ComponentDetails.withoutRecentType) }
    components := Tree.mapAll ComponentDetails.withoutRecentType bom.components }

/-- Whether a document can be written for a version as it is. -/
def fits (bom : Bom) (version : SpecVersion) : Bool :=
  version.supportsLifecycles || !bom.hasRecentParts

/-- The document as it can be written for a version. -/
def downgrade (bom : Bom) (version : SpecVersion) : Bom :=
  if bom.fits version then bom else bom.withoutRecentParts

end Bom

end Sbom.CycloneDx
