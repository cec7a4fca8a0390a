import Sbom.Conversion.GeneratedRef
import Sbom.Json.Value

/-!
# Settings

What a conversion writes and how it behaves. Version and encoding are plain text here; they are
checked when the settings are validated or used.
-/

namespace Sbom.Settings

/-- What is written. -/
structure Output where
  /-- The CycloneDX version. -/
  version : String := "1.5"
  /-- The encoding. -/
  encoding : String := "json"
deriving DecidableEq, Repr

/-- How a conversion behaves. -/
structure Behavior where
  /-- Whether a loss of information is a failure. -/
  strict : Bool := false
  /-- Whether every loss is logged. -/
  logDegradations : Bool := true
  /-- Whether generated references are cleared. -/
  clearGeneratedRefs : Bool := true
  /-- The mark of generated references. -/
  generatedMark : String := Conversion.defaultGeneratedMark
deriving DecidableEq, Repr

/-- The value form of what is written. -/
def Output.toJson (output : Output) : Json :=
  .object [("spec_version", .string output.version), ("encoding", .string output.encoding)]

/-- The value form of a behaviour. -/
def Behavior.toJson (behavior : Behavior) : Json :=
  .object [
    ("strict", .bool behavior.strict),
    ("log_degradations", .bool behavior.logDegradations),
    ("clear_auto_refs", .bool behavior.clearGeneratedRefs),
    ("auto_ref_prefix", .string behavior.generatedMark)]

end Sbom.Settings

namespace Sbom

/-- The settings of a conversion. -/
structure Settings where
  /-- What is written. -/
  output : Settings.Output := {}
  /-- How the conversion behaves. -/
  behavior : Settings.Behavior := {}
deriving DecidableEq, Repr

/-- The value form of settings. -/
def Settings.toJson (settings : Settings) : Json :=
  .object [("output", settings.output.toJson), ("behavior", settings.behavior.toJson)]

end Sbom
