import Sbom.Proofs.Clearing
import Sbom.Proofs.FatalFailure

/-!
# Strict mode as a last filter

Strict mode looks at the finished result of a conversion and at nothing else: it lets a conversion
through that lost nothing, as it is, and turns every other one that succeeds into the failure that
counts its losses and shows the first. Failures of the conversion itself come before it. Whether
losses are logged has no influence on the result, and the log is the same in and outside strict mode.
-/

namespace Sbom.Conversion

open Sbom.Graph (Document)
open Settings (Behavior)

variable {interrupt : Interrupt} {document : Document} {failure : Failure}

/-- No fatal failure counts losses. -/
theorem FatalFailure.ne_degraded (fatal : FatalFailure interrupt document failure) (count : Nat)
    (first : String) : failure ≠ .degraded count first := by
  rcases fatal.kind with ⟨_, rfl⟩ | ⟨_, _, rfl⟩ | ⟨_, _, rfl⟩ <;> exact Failure.noConfusion

/-- Strict mode lets through what lost nothing. -/
theorem applyStrict_true_eq_ok_iff {converted other : Converted} :
    applyStrict true converted = .ok other ↔ converted = other ∧ other.report = [] := by
  unfold applyStrict
  cases lost : converted.report with
  | nil =>
      constructor
      · rintro same
        cases same
        exact ⟨rfl, lost⟩
      · rintro ⟨rfl, _⟩
        rfl
  | cons first rest =>
      constructor
      · intro same
        cases same
      · rintro ⟨rfl, lossless⟩
        cases lost.symm.trans lossless

/-- A conversion in strict mode is the one outside it, filtered at the end. -/
theorem convert_strict_eq_bind (behavior : Behavior) (interrupt : Interrupt) (document : Document) :
    convert { behavior with strict := true } interrupt document =
      convert { behavior with strict := false } interrupt document >>= applyStrict true := by
  cases assembles : assemble interrupt document with
  | error failure =>
      rw [convert_of_assemble_error _ assembles, convert_of_assemble_error _ assembles]
      rfl
  | ok assembled =>
      rw [convert_of_assemble_ok _ assembles, convert_of_assemble_ok _ assembles, applyStrict_false]
      rfl

/-- Outside strict mode a conversion fails only for a fatal failure. -/
theorem convert_lenient_eq_error_iff (behavior : Behavior) :
    convert { behavior with strict := false } interrupt document = .error failure ↔
      FatalFailure interrupt document failure := by
  cases assembles : assemble interrupt document with
  | error cause => rw [convert_of_assemble_error _ assembles, ← assembles, assemble_eq_error_iff]
  | ok assembled =>
      rw [convert_of_assemble_ok _ assembles, applyStrict_false, ← assemble_eq_error_iff, assembles]
      exact iff_of_false nofun nofun

/-- Strict mode and logging do not change what a conversion does. In strict mode it succeeds exactly
if it succeeds without and loses nothing, and then with the same document. It fails by counting
losses exactly if it succeeds without strict mode and loses something: the count is the length of
that report, and the loss that is shown is its first entry. Any other failure is one of both modes.
The log is that of the mode without, and logging changes neither document nor report nor failure. -/
theorem convert_strict (behavior : Behavior) (interrupt : Interrupt) (document : Document) :
    (∀ converted, convert { behavior with strict := true } interrupt document = .ok converted ↔
      convert { behavior with strict := false } interrupt document = .ok converted ∧
        converted.report = []) ∧
    (∀ count shown,
      convert { behavior with strict := true } interrupt document = .error (.degraded count shown) ↔
        ∃ converted first rest,
          convert { behavior with strict := false } interrupt document = .ok converted ∧
          converted.report = first :: rest ∧
          count = converted.report.length ∧
          shown = (match first.nodeId with
            | some id => "[" ++ first.kind.label ++ "] node " ++ id ++ ": " ++ first.message
            | none => "[" ++ first.kind.label ++ "] " ++ first.message)) ∧
    (∀ failure, convert { behavior with strict := false } interrupt document = .error failure ↔
      convert { behavior with strict := true } interrupt document = .error failure ∧
        ∀ count shown, failure ≠ .degraded count shown) ∧
    convertLog { behavior with strict := true } interrupt document =
      convertLog { behavior with strict := false } interrupt document ∧
    ∀ logs, convert { behavior with logDegradations := logs } interrupt document =
      convert behavior interrupt document := by
  refine ⟨?_, ?_, ?_, rfl, fun _ => rfl⟩
  · intro converted
    rw [convert_strict_eq_bind]
    cases convert { behavior with strict := false } interrupt document with
    | error failure => simp [bind, Except.bind]
    | ok lenient =>
        simp only [bind, Except.bind, applyStrict_true_eq_ok_iff, Except.ok.injEq]
  · intro count shown
    rw [convert_strict_eq_bind]
    cases lenient : convert { behavior with strict := false } interrupt document with
    | error failure =>
        -- The failure comes from an earlier stage, and none of these counts losses.
        have fatal := (convert_lenient_eq_error_iff behavior).mp lenient
        simpa [bind, Except.bind] using fatal.ne_degraded count shown
    | ok converted =>
        simp only [bind, Except.bind, applyStrict_eq_error_iff, Failure.degraded.injEq, true_and,
          Except.ok.injEq]
        constructor
        · rintro ⟨first, rest, lost, rfl, rfl⟩
          exact ⟨converted, first, rest, rfl, lost, by rw [lost]; rfl, rfl⟩
        · rintro ⟨_, first, rest, rfl, lost, rfl, rfl⟩
          exact ⟨first, rest, lost, by rw [lost]; rfl, rfl⟩
  · intro failure
    rw [convert_strict_eq_bind]
    cases lenient : convert { behavior with strict := false } interrupt document with
    | error cause =>
        have fatal := (convert_lenient_eq_error_iff behavior).mp lenient
        simp only [bind, Except.bind, Except.error.injEq]
        constructor
        · rintro rfl
          exact ⟨rfl, fatal.ne_degraded⟩
        · exact And.left
    | ok converted =>
        simp only [bind, Except.bind, applyStrict_eq_error_iff, reduceCtorEq, false_iff, not_and]
        rintro ⟨_, first, rest, _, rfl⟩ notCounted
        exact notCounted _ _ rfl

/-- The losses that strict mode counts include those of clearing: the ingested document loses nothing
before its generated references are cleared. -/
theorem convert_ingestedDocument_degraded :
    convert { strict := true, generatedMark := "ingest-" } {} ingestedDocument =
      .error (.degraded 2
        ("[synthetic dependency reference] node lib: dependency record names generated " ++
          "reference(s) ingest-auto--2 that no component carries")) ∧
    ∃ kept, convert { strict := true, clearGeneratedRefs := false } {} ingestedDocument =
      .ok kept := by
  constructor
  · refine ((convert_strict { generatedMark := "ingest-" } {} ingestedDocument).2.1 _ _).mpr ?_
    exact ⟨_, _, _, rfl, rfl, rfl, by decide⟩
  · exact ⟨_, ((convert_strict { clearGeneratedRefs := false } {} ingestedDocument).1 _).mpr
      ⟨rfl, rfl⟩⟩

end Sbom.Conversion
