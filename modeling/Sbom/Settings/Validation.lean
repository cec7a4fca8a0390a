import Sbom.CycloneDx.SpecVersion
import Sbom.Settings.Basic

/-!
# Valid settings

Settings are valid when their version and encoding are supported, and generated references are not
to be cleared under a blank mark. Every problem is found, in the order of the fields; a use of the
settings reports the first one, and a check of the settings all of them.
-/

namespace Sbom.Settings

open CycloneDx (Encoding SpecVersion)

/-- A problem with one field. -/
structure Problem where
  /-- The path of the field. -/
  field : String
  /-- What is wrong with it. -/
  message : String
deriving DecidableEq, Repr

/-- How a problem is shown. -/
def Problem.shown (problem : Problem) : String :=
  problem.field ++ ": " ++ problem.message

/-- The problem of a field whose text must be readable. -/
def problemOf {α : Type} (field : String) (result : Except EncodingCause α) : List Problem :=
  match result with
  | .ok _ => []
  | .error cause => [⟨field, cause.message⟩]

/-- The problems with what is written. -/
def Output.problems (output : Output) : List Problem :=
  problemOf "output.spec_version" (SpecVersion.parse output.version) ++
    problemOf "output.encoding" (Encoding.parse output.encoding)

/-- The problems with a behaviour. -/
def Behavior.problems (behavior : Behavior) : List Problem :=
  if behavior.clearGeneratedRefs && Text.isAllBlank behavior.generatedMark then
    [⟨"behavior.auto_ref_prefix", "Prefix must not be empty while clear_auto_refs is enabled"⟩]
  else []

/-- Every problem with settings, in the order of the fields. -/
def problems (settings : Settings) : List Problem :=
  settings.output.problems ++ settings.behavior.problems

/-- Whether settings are valid. -/
def isValid (settings : Settings) : Bool :=
  settings.problems.isEmpty

/-- The settings, or a failure that lists every problem. -/
def validated (settings : Settings) : Except Failure Settings :=
  match settings.problems with
  | [] => .ok settings
  | problems => .error (.configuration ("; ".intercalate (problems.map Problem.shown)))

/-- The settings as a conversion uses them, or a failure with the first problem. -/
def usable (settings : Settings) : Except Failure Settings :=
  match settings.problems with
  | [] => .ok settings
  | problem :: _ => .error (.configuration problem.shown)

end Sbom.Settings
