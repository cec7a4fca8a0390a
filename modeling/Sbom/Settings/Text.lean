import Sbom.Failure
import Sbom.Settings.Basic
import Sbom.Yaml.Decode
import Sbom.Yaml.ScalarForm

/-!
# Settings as text

Settings are kept as YAML text: a mapping of the two sections, each a mapping of its fields. The
written text names every field in order. A text that is read may leave out fields and sections,
which then have their defaults, and may hold entries that mean nothing.
-/

namespace Sbom.Settings

/-! ## Writing -/

/-- The line of a section. -/
def sectionLine (name : String) : List Char :=
  name.toList ++ [':', '\n']

/-- The entry of a field in a section, from the form of its value. -/
def entryForm (name : String) (value : List Char) : List Char :=
  [' ', ' '] ++ name.toList ++ [':', ' '] ++ value

/-- The entry of a field that holds text. -/
def textEntry (name value : String) : List Char :=
  entryForm name (Yaml.scalarForm 4 value)

/-- The entry of a field that holds a truth value. -/
def boolEntry (name : String) (value : Bool) : List Char :=
  entryForm name ((if value then "true" else "false").toList ++ ['\n'])

/-- The entries of what is written. -/
def Output.entries (output : Output) : List Char :=
  textEntry "spec_version" output.version ++ textEntry "encoding" output.encoding

/-- The entries of a behaviour. -/
def Behavior.entries (behavior : Behavior) : List Char :=
  boolEntry "strict" behavior.strict ++
    boolEntry "log_degradations" behavior.logDegradations ++
    boolEntry "clear_auto_refs" behavior.clearGeneratedRefs ++
    textEntry "auto_ref_prefix" behavior.generatedMark

/-- The text of settings. -/
def text (settings : Settings) : String :=
  String.ofList
    (sectionLine "output" ++ settings.output.entries ++
      sectionLine "behavior" ++ settings.behavior.entries)

/-! ## Reading -/

/-- Reads what is written. -/
def decodeOutput : Yaml.Decoder Output :=
  Yaml.decodeRecord "OutputConfig" [
    .of "spec_version" Yaml.decodeString fun output value => { output with version := value },
    .of "encoding" Yaml.decodeString fun output value => { output with encoding := value }] {}

/-- Reads a behaviour. -/
def decodeBehavior : Yaml.Decoder Behavior :=
  Yaml.decodeRecord "BehaviorConfig" [
    .of "strict" Yaml.decodeBool fun behavior value => { behavior with strict := value },
    .of "log_degradations" Yaml.decodeBool fun behavior value =>
      { behavior with logDegradations := value },
    .of "clear_auto_refs" Yaml.decodeBool fun behavior value =>
      { behavior with clearGeneratedRefs := value },
    .of "auto_ref_prefix" Yaml.decodeString fun behavior value =>
      { behavior with generatedMark := value }] {}

/-- Reads settings. -/
def decodeSettings : Yaml.Decoder Settings :=
  Yaml.decodeRecord "SerializerConfig" [
    .of "output" decodeOutput fun settings value => { settings with output := value },
    .of "behavior" decodeBehavior fun settings value => { settings with behavior := value }] {}

/-- The settings that a text stands for. -/
def parse (text : String) : Except Yaml.DecodeFault Settings :=
  Yaml.decodeText decodeSettings {} text

/-- The failure of settings that could not be read. -/
def unreadable (fault : Yaml.DecodeFault) : Failure :=
  .configuration ("failed to parse YAML: " ++ fault.message)

end Sbom.Settings
