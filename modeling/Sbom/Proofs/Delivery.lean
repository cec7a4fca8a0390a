import Sbom.Delivery
import Sbom.Proofs.Refusal
import Sbom.Proofs.Strictness

/-!
# Settings and delivery

Settings are looked at more than once: a check lists their problems, a use stops at the first one,
and the encoder reads version and encoding again before it writes. All of them agree on which
settings are in order. With such settings a delivery is a conversion followed by an encoding, and no
failure of either is about the settings; a delivery that fails leaves an output that takes everything
as it was.
-/

namespace Sbom.CycloneDx

/-- Version and encoding are found exactly if each text names one. -/
theorem resolveTarget_eq_ok_iff {version encoding : String} {target : SpecVersion}
    {form : Encoding} :
    resolveTarget version encoding = .ok (target, form) ↔
      SpecVersion.parse version = .ok target ∧ Encoding.parse encoding = .ok form := by
  unfold resolveTarget
  cases SpecVersion.parse version <;> cases Encoding.parse encoding <;> simp

end Sbom.CycloneDx

namespace Sbom.Settings

open CycloneDx (Encoding SpecVersion resolveTarget resolveTarget_eq_ok_iff)

variable {settings : Settings} {problem : Problem}

/-- What can be wrong with settings. -/
inductive HasProblem (settings : Settings) : Problem → Prop where
  /-- The version is none that can be written. -/
  | version {cause : EncodingCause}
      (unknown : SpecVersion.parse settings.output.version = .error cause) :
      HasProblem settings ⟨"output.spec_version", cause.message⟩
  /-- The encoding is none that can be written. -/
  | encoding {cause : EncodingCause}
      (unknown : Encoding.parse settings.output.encoding = .error cause) :
      HasProblem settings ⟨"output.encoding", cause.message⟩
  /-- Every reference would count as a generated one. -/
  | mark (clears : settings.behavior.clearGeneratedRefs = true)
      (blank : Text.isAllBlank settings.behavior.generatedMark = true) :
      HasProblem settings
        ⟨"behavior.auto_ref_prefix", "Prefix must not be empty while clear_auto_refs is enabled"⟩

/-- The fields that are checked, in their order. -/
def checkedFields : List String :=
  ["output.spec_version", "output.encoding", "behavior.auto_ref_prefix"]

theorem mem_problemOf_iff {α : Type} {field : String} {result : Except EncodingCause α} :
    problem ∈ problemOf field result ↔
      ∃ cause, result = .error cause ∧ problem = ⟨field, cause.message⟩ := by
  cases result <;> simp [problemOf]

theorem mem_behavior_problems_iff {behavior : Behavior} :
    problem ∈ behavior.problems ↔
      (behavior.clearGeneratedRefs = true ∧ Text.isAllBlank behavior.generatedMark = true) ∧
        problem = ⟨"behavior.auto_ref_prefix",
          "Prefix must not be empty while clear_auto_refs is enabled"⟩ := by
  unfold Behavior.problems
  cases behavior.clearGeneratedRefs <;> cases Text.isAllBlank behavior.generatedMark <;> simp

/-- The problems that are found are those that there are. -/
theorem mem_problems_iff : problem ∈ settings.problems ↔ HasProblem settings problem := by
  simp only [problems, Output.problems, List.mem_append, mem_problemOf_iff,
    mem_behavior_problems_iff]
  constructor
  · rintro ((⟨cause, unknown, rfl⟩ | ⟨cause, unknown, rfl⟩) | ⟨⟨clears, blank⟩, rfl⟩)
    · exact .version unknown
    · exact .encoding unknown
    · exact .mark clears blank
  · rintro (⟨unknown⟩ | ⟨unknown⟩ | ⟨clears, blank⟩)
    · exact .inl (.inl ⟨_, unknown, rfl⟩)
    · exact .inl (.inr ⟨_, unknown, rfl⟩)
    · exact .inr ⟨⟨clears, blank⟩, rfl⟩

/-- A field whose text must be readable has at most one problem. -/
theorem fields_problemOf_sublist {α : Type} (field : String) (result : Except EncodingCause α) :
    ((problemOf field result).map Problem.field).Sublist [field] := by
  cases result <;> simp [problemOf]

/-- Problems come in the order of the fields, and at most one for each. -/
theorem fields_problems_sublist (settings : Settings) :
    (settings.problems.map Problem.field).Sublist checkedFields := by
  have ofBehavior : (settings.behavior.problems.map Problem.field).Sublist
      ["behavior.auto_ref_prefix"] := by
    unfold Behavior.problems
    split <;> simp
  simp only [problems, Output.problems, List.map_append]
  exact ((fields_problemOf_sublist _ _).append (fields_problemOf_sublist _ _)).append ofBehavior

/-- Settings are in order exactly if their version and encoding are found and generated references
are not to be cleared under a blank mark. -/
theorem problems_eq_nil_iff :
    settings.problems = [] ↔
      (∃ target, resolveTarget settings.output.version settings.output.encoding = .ok target) ∧
        ¬ (settings.behavior.clearGeneratedRefs = true ∧
          Text.isAllBlank settings.behavior.generatedMark = true) := by
  simp only [List.eq_nil_iff_forall_not_mem, mem_problems_iff]
  constructor
  · intro sound
    refine ⟨?_, fun ⟨clears, blank⟩ => sound _ (.mark clears blank)⟩
    cases known : SpecVersion.parse settings.output.version with
    | error cause => exact absurd (.version known) (sound _)
    | ok target =>
        cases parsed : Encoding.parse settings.output.encoding with
        | error cause => exact absurd (.encoding parsed) (sound _)
        | ok form => exact ⟨(target, form), resolveTarget_eq_ok_iff.mpr ⟨known, parsed⟩⟩
  · rintro ⟨⟨target, resolved⟩, marked⟩ problem found
    obtain ⟨known, parsed⟩ := resolveTarget_eq_ok_iff.mp resolved
    cases found with
    | version unknown => cases known.symm.trans unknown
    | encoding unknown => cases parsed.symm.trans unknown
    | mark clears blank => exact marked ⟨clears, blank⟩

/-- A check of settings gives them back exactly if it finds no problem. -/
theorem validated_eq_ok_iff : settings.validated = .ok settings ↔ settings.problems = [] := by
  unfold validated
  cases settings.problems <;> simp

/-- Settings can be used exactly if a check finds no problem, and are used as they are. -/
theorem usable_eq_ok_iff {used : Settings} :
    settings.usable = .ok used ↔ settings.problems = [] ∧ used = settings := by
  unfold usable
  cases settings.problems <;> simp [eq_comm]

end Sbom.Settings

namespace Sbom

open Conversion (Converted FatalFailure Interrupt Report convert)
open CycloneDx (Bom Sink resolveTarget resolveTarget_eq_ok_iff)

variable {settings : Settings} {interrupt : Interrupt} {document : Graph.Document}
  {sink after : Sink} {failure : Failure} {report : Report}

/-- Whether a failure is about the settings: they are invalid, or their version or encoding is none
that can be written. -/
def Failure.IsAboutSettings : Failure → Prop
  | .configuration _ => True
  | .encoding _ (.unsupportedVersion _ _) => True
  | .encoding _ (.unsupportedEncoding _ _) => True
  | _ => False

/-- No conversion fails for its settings. -/
theorem Conversion.not_isAboutSettings_of_convert {behavior : Settings.Behavior}
    (fails : convert behavior interrupt document = .error failure) :
    ¬ failure.IsAboutSettings := by
  cases assembles : assemble interrupt document with
  | error cause =>
      rw [convert_of_assemble_error behavior assembles] at fails
      cases fails
      rcases (assemble_eq_error_iff.mp assembles).kind with
        ⟨_, rfl⟩ | ⟨_, _, rfl⟩ | ⟨_, _, rfl⟩ <;> exact id
  | ok assembled =>
      rw [convert_of_assemble_ok behavior assembles, applyStrict_eq_error_iff] at fails
      obtain ⟨_, _, _, _, rfl⟩ := fails
      exact id

/-- An encoder that finds its version and encoding refuses a document for its defects only. -/
theorem CycloneDx.Bom.Refused.not_isAboutSettings {bom : Bom} {version encoding : String}
    (refused : bom.Refused version encoding failure)
    (resolves : ∃ target, resolveTarget version encoding = .ok target) :
    ¬ failure.IsAboutSettings := by
  obtain ⟨⟨target, form⟩, resolved⟩ := resolves
  obtain ⟨known, parsed⟩ := resolveTarget_eq_ok_iff.mp resolved
  cases refused with
  | version unknown => cases known.symm.trans unknown
  | encoding _ unknown => cases parsed.symm.trans unknown
  | duplicateRef _ _ _ => exact id
  | emptyDependencyRef _ _ _ => exact id
  | unwritableChar _ _ _ => exact id

/-- Settings with a problem are refused for the first one, and nothing is written. -/
theorem deliver_of_problems {first : Settings.Problem} {rest : List Settings.Problem}
    (found : settings.problems = first :: rest) :
    deliver settings interrupt document sink = (sink, .error (.configuration first.shown)) := by
  simp [deliver, Settings.usable, found]

/-- With settings in order, a failed conversion is a failed delivery. -/
theorem deliver_of_convert_error (sound : settings.problems = [])
    (fails : convert settings.behavior interrupt document = .error failure) :
    deliver settings interrupt document sink = (sink, .error failure) := by
  simp [deliver, Settings.usable_eq_ok_iff.mpr ⟨sound, rfl⟩, fails]

/-- With settings in order, the result of a conversion is encoded. -/
theorem deliver_of_convert_ok {converted : Converted} (sound : settings.problems = [])
    (succeeds : convert settings.behavior interrupt document = .ok converted) :
    deliver settings interrupt document sink =
      ((converted.bom.encode settings.output.version settings.output.encoding sink).1,
        (converted.bom.encode settings.output.version settings.output.encoding sink).2.map
          fun _ => converted.report) := by
  simp [deliver, Settings.usable_eq_ok_iff.mpr ⟨sound, rfl⟩, succeeds]

/-- With settings in order and an output that takes everything, a delivery that fails writes nothing
and does not fail for the settings. -/
theorem deliver_fails (sound : settings.problems = []) (unbounded : sink.bound = none)
    (fails : deliver settings interrupt document sink = (after, .error failure)) :
    after = sink ∧ ¬ failure.IsAboutSettings := by
  cases conversion : convert settings.behavior interrupt document with
  | error cause =>
      cases (deliver_of_convert_error sound conversion).symm.trans fails
      exact ⟨rfl, Conversion.not_isAboutSettings_of_convert conversion⟩
  | ok converted =>
      rw [deliver_of_convert_ok sound conversion] at fails
      rcases converted.bom.accepted_or_refused settings.output.version settings.output.encoding
        with accepted | ⟨reason, refused⟩
      · rw [accepted.encode_eq unbounded] at fails
        cases fails
      · rw [refused.encode_eq] at fails
        cases fails
        exact ⟨rfl, refused.not_isAboutSettings (Settings.problems_eq_nil_iff.mp sound).1⟩

/-- With settings in order, a delivery succeeds exactly if its conversion does and the result can be
encoded; it leaves what the encoder leaves, and the report is that of the conversion. -/
theorem deliver_eq_ok_iff (sound : settings.problems = []) :
    deliver settings interrupt document sink = (after, .ok report) ↔
      ∃ converted, convert settings.behavior interrupt document = .ok converted ∧
        converted.bom.encode settings.output.version settings.output.encoding sink =
          (after, .ok ()) ∧
        report = converted.report := by
  cases conversion : convert settings.behavior interrupt document with
  | error cause => simp [deliver_of_convert_error sound conversion]
  | ok converted =>
      rw [deliver_of_convert_ok sound conversion]
      constructor
      · intro delivered
        cases encoded : converted.bom.encode settings.output.version settings.output.encoding
          sink with
        | mk left result =>
            rw [encoded] at delivered
            cases result with
            | error cause => cases delivered
            | ok written =>
                cases delivered
                exact ⟨converted, rfl, encoded, rfl⟩
      · rintro ⟨other, same, encoded, rfl⟩
        cases same
        rw [encoded]
        rfl

/-- Every look at settings comes to the same result. A check finds no problem exactly if it gives
the settings back, if they can be used, and if version and encoding are found and generated
references are not to be cleared under a blank mark. The problems are those that there are, in the
order of the fields. If there are some, a check fails with all of them, and a use and every delivery
with the first, and nothing is written. If there are none, a delivery into an output that takes
everything writes nothing when it fails and never fails for the settings; it succeeds exactly if the
conversion does and the encoder writes the result, which is then what is written, and returns the
report of that conversion. -/
theorem deliver_settings (settings : Settings) :
    ((settings.isValid = true ↔ settings.problems = []) ∧
      (settings.problems = [] ↔ settings.validated = .ok settings) ∧
      (settings.problems = [] ↔ ∃ used, settings.usable = .ok used) ∧
      (settings.problems = [] ↔
        (∃ target, resolveTarget settings.output.version settings.output.encoding = .ok target) ∧
          ¬ (settings.behavior.clearGeneratedRefs = true ∧
            Text.isAllBlank settings.behavior.generatedMark = true))) ∧
    ((∀ problem, problem ∈ settings.problems ↔ settings.HasProblem problem) ∧
      (settings.problems.map Settings.Problem.field).Sublist Settings.checkedFields) ∧
    (∀ first rest, settings.problems = first :: rest →
      settings.validated = .error (.configuration
        ("; ".intercalate (settings.problems.map fun problem =>
          problem.field ++ ": " ++ problem.message))) ∧
      settings.usable = .error (.configuration (first.field ++ ": " ++ first.message)) ∧
      ∀ interrupt document sink, deliver settings interrupt document sink =
        (sink, .error (.configuration (first.field ++ ": " ++ first.message)))) ∧
    (settings.problems = [] → ∀ interrupt document sink, sink.bound = none →
      (∀ after failure, deliver settings interrupt document sink = (after, .error failure) →
        after = sink ∧ ¬ failure.IsAboutSettings) ∧
      ∀ after report, deliver settings interrupt document sink = (after, .ok report) ↔
        ∃ converted, convert settings.behavior interrupt document = .ok converted ∧
          converted.bom.encode settings.output.version settings.output.encoding sink =
            (after, .ok ()) ∧
          report = converted.report) := by
  refine ⟨⟨List.isEmpty_iff, Settings.validated_eq_ok_iff.symm, ?_, Settings.problems_eq_nil_iff⟩,
    ⟨fun problem => Settings.mem_problems_iff, Settings.fields_problems_sublist settings⟩, ?_, ?_⟩
  · simp [Settings.usable_eq_ok_iff]
  · intro first rest found
    refine ⟨?_, ?_, fun interrupt document sink => deliver_of_problems found⟩
    · rw [Settings.validated, found]
      rfl
    · rw [Settings.usable, found]
      rfl
  · intro sound interrupt document sink unbounded
    exact ⟨fun after failure => deliver_fails sound unbounded,
      fun after report => deliver_eq_ok_iff sound⟩

/-- Settings with a problem in every field that is checked. -/
def brokenSettings : Settings where
  output := { version := "1.9", encoding := "yaml" }
  behavior := { generatedMark := " \t" }

/-- A document with a root and nothing else. -/
def rootedDocument : Graph.Document where
  nodeList := { nodes := [{ id := "app" }], rootElements := ["app"] }

theorem deliver_brokenSettings :
    brokenSettings.validated = .error (.configuration ("; ".intercalate [
      "output.spec_version: Unsupported CycloneDX version: 1.9 " ++
        "(supported: 1.2, 1.3, 1.4, 1.5, 1.6)",
      "output.encoding: Unsupported encoding: yaml (supported: json, xml)",
      "behavior.auto_ref_prefix: Prefix must not be empty while clear_auto_refs is enabled"])) ∧
    deliver brokenSettings {} rootedDocument {} = ({}, .error (.configuration
      ("output.spec_version: Unsupported CycloneDX version: 1.9 " ++
        "(supported: 1.2, 1.3, 1.4, 1.5, 1.6)"))) ∧
    (∃ failure, deliver {} {} Conversion.danglingDocument {} = ({}, .error failure) ∧
      ¬ failure.IsAboutSettings) ∧
    ∃ converted after, convert {} {} rootedDocument = .ok converted ∧
      converted.bom.encode "1.5" "json" {} = (after, .ok ()) ∧
      deliver {} {} rootedDocument {} = (after, .ok converted.report) := by
  have refused := (deliver_settings brokenSettings).2.2.1
    ⟨"output.spec_version",
      "Unsupported CycloneDX version: 1.9 (supported: 1.2, 1.3, 1.4, 1.5, 1.6)"⟩ _ rfl
  have works := (deliver_settings {}).2.2.2 rfl
  refine ⟨refused.1, refused.2.2 {} rootedDocument {}, ?_, ?_⟩
  · obtain ⟨after, failure, fails⟩ :
        ∃ after failure, deliver {} {} Conversion.danglingDocument {} = (after, .error failure) :=
      ⟨_, _, rfl⟩
    obtain ⟨rfl, notSettings⟩ := (works {} Conversion.danglingDocument {} rfl).1 _ _ fails
    exact ⟨failure, fails, notSettings⟩
  · obtain ⟨after, report, delivered⟩ :
        ∃ after report, deliver {} {} rootedDocument {} = (after, .ok report) :=
      ⟨_, _, rfl⟩
    obtain ⟨converted, converts, encoded, rfl⟩ :=
      ((works {} rootedDocument {} rfl).2 _ _).mp delivered
    exact ⟨converted, after, converts, encoded, delivered⟩

end Sbom
