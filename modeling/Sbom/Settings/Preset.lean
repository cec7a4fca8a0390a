import Sbom.Settings.Basic
import Sbom.Text.LowerCase

/-!
# Presets and adjustments

Settings are made from a preset or by adjusting fields one after the other. Presets have names, in
any case, and one of them has a second name. They differ in their behaviour only.
-/

namespace Sbom.Settings

/-- A named choice of settings. -/
inductive Preset where
  /-- Losses are logged and the document is returned. -/
  | standard
  /-- Losses are summed up and the document is returned. -/
  | lenient
  /-- A loss is a failure. -/
  | strict
deriving DecidableEq, Repr

namespace Preset

/-- The name of a preset. -/
def name : Preset → String
  | .standard => "default"
  | .lenient => "lenient"
  | .strict => "strict"

/-- What a preset does. -/
def description : Preset → String
  | .standard => "Log each degradation and return the document"
  | .lenient => "Return the document, only a summary line is logged"
  | .strict => "Fail the conversion if any information is lost"

/-- All presets. -/
def all : List Preset := [.standard, .lenient, .strict]

/-- The names under which presets are found. -/
def names : List (String × Preset) :=
  (all.map fun preset => (preset.name, preset)) ++ [("permissive", .lenient)]

/-- The preset with a name, in any case. -/
def ofName? (name : String) : Option Preset :=
  (names.find? fun entry => entry.1 == Text.lowercase name).map Prod.snd

/-- The settings of a preset. -/
def settings : Preset → Settings
  | .standard => {}
  | .lenient => { behavior := { logDegradations := false } }
  | .strict => { behavior := { strict := true } }

end Preset

/-- A new value for one field. -/
inductive Adjustment where
  /-- The CycloneDX version. -/
  | version (value : String)
  /-- The encoding. -/
  | encoding (value : String)
  /-- Whether a loss of information is a failure. -/
  | strict (value : Bool)
  /-- Whether every loss is logged. -/
  | logDegradations (value : Bool)
  /-- Whether generated references are cleared. -/
  | clearGeneratedRefs (value : Bool)
  /-- The mark of generated references. -/
  | generatedMark (value : String)
deriving DecidableEq, Repr

/-- The settings with one field replaced. -/
def adjust (settings : Settings) : Adjustment → Settings
  | .version value => { settings with output.version := value }
  | .encoding value => { settings with output.encoding := value }
  | .strict value => { settings with behavior.strict := value }
  | .logDegradations value => { settings with behavior.logDegradations := value }
  | .clearGeneratedRefs value => { settings with behavior.clearGeneratedRefs := value }
  | .generatedMark value => { settings with behavior.generatedMark := value }

/-- The default settings with fields replaced in order. -/
def ofAdjustments (adjustments : List Adjustment) : Settings :=
  adjustments.foldl adjust {}

end Sbom.Settings
