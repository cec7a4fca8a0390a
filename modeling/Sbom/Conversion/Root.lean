import Sbom.Conversion.Degradation
import Sbom.Conversion.Registry

/-!
# The root of the tree

The first declared root becomes the root component if it is registered. Further declared roots are
reported, and so is a first root that is no node.
-/

namespace Sbom.Conversion

open CycloneDx (Component)

/-- The registry with the root resolved, the component of the root as it is now, and the report. -/
def resolveRoot (registry : Registry) (rootElements : List String) :
    Registry × Option Component × Report :=
  match rootElements with
  | [] => (registry, none, [])
  | first :: extras =>
    let extraReport : Report := extras.map fun extra =>
      .atNode .extraRootElement extra
        ("only one root is supported, '" ++ first ++ "' was used")
    match registry.record? first with
    | none =>
      (registry, none, extraReport ++
        [.atNode .missingRootElement first "declared root element matches no node"])
    | some component => (registry.setRoot first, some component, extraReport)

end Sbom.Conversion
