import Sbom.Proofs.Encodable

/-!
# Clearing as a last step

Whether generated references are cleared has no influence on anything before the clearing. Of two
conversions that differ in nothing else, either both fail with the same error, or the one that
clears is the other one with generated references emptied in its trees and one more report entry for
each dependency record that names one. The records are tested with the predicate that decides what
is cleared, and they keep their text, so what the new entries name is found nowhere in the document.
-/

namespace Sbom

open CycloneDx (Bom ComponentDetails Dependency)
open Sbom.Graph (Document)
open Settings (Behavior)

/-- The document with the reference of every component replaced, in the root tree and in the
top-level trees, at every depth. Dependency records and everything else stay. -/
def CycloneDx.Bom.mapRefs (f : String → String) (bom : Bom) : Bom :=
  let replaced := Tree.map fun details : ComponentDetails => { details with ref := f details.ref }
  { bom with
    metadata := { bom.metadata with component := bom.metadata.component.map replaced }
    components := bom.components.map replaced }

/-- The behaviour outside strict mode, with generated references cleared or kept. -/
def Settings.Behavior.lenient (behavior : Behavior) (clears : Bool) : Behavior :=
  { behavior with strict := false, clearGeneratedRefs := clears }

namespace Conversion

variable {mark ref : String} {record : Dependency}

/-- What is left of a reference when generated ones are cleared. -/
def clearedRef (mark ref : String) : String :=
  if isGeneratedRef ref mark then "" else ref

/-- Whether a dependency record names a generated reference, as its own or as a target. -/
def NamesGenerated (mark : String) (record : Dependency) : Prop :=
  isGeneratedRef record.ref mark = true ∨
    ∃ target ∈ record.dependsOn, isGeneratedRef target mark = true

instance (mark : String) (record : Dependency) : Decidable (NamesGenerated mark record) :=
  inferInstanceAs (Decidable (_ ∨ _))

/-- What is reported of a dependency record that names generated references: the entry is at the
record's own reference, and its message names them in order. -/
def generatedRefEntry (mark : String) (record : Dependency) : Degradation where
  kind := .syntheticDependencyReference
  nodeId := some record.ref
  message := "dependency record names generated reference(s) " ++
    ", ".intercalate (generatedRefsOf mark record) ++ " that no component carries"

/-- How a conversion that clears the references generated under a mark stands to the one that keeps
them. -/
structure ClearedFrom (mark : String) (kept cleared : Converted) : Prop where
  bom : cleared.bom = kept.bom.mapRefs (clearedRef mark)
  refs : cleared.bom.refs = kept.bom.refs.map (clearedRef mark)
  dependencies : cleared.bom.dependencies = kept.bom.dependencies
  report : cleared.report = kept.report ++
    (kept.bom.dependencies.filter (NamesGenerated mark ·)).map (generatedRefEntry mark)
  noneGenerated : ∀ ref ∈ cleared.bom.refs, isGeneratedRef ref mark = false
  unresolved : ∀ record ∈ cleared.bom.dependencies, ∀ ref ∈ generatedRefsOf mark record,
    cleared.bom.findComponent? ref = none

/-- No mark makes the empty reference a generated one. -/
theorem isGeneratedRef_empty (mark : String) : isGeneratedRef "" mark = false := by
  have noMarker : containsText ['-', 'a', 'u', 't', 'o'] (firstSegment "".toList) = false := by
    decide
  rw [isGeneratedRef, noMarker, Bool.and_false]

/-- What is left of a reference is never a generated one. -/
theorem isGeneratedRef_clearedRef (mark ref : String) :
    isGeneratedRef (clearedRef mark ref) mark = false := by
  unfold clearedRef
  split
  case isTrue => exact isGeneratedRef_empty mark
  case isFalse notGenerated => exact Bool.not_eq_true _ ▸ notGenerated

/-- A record names a generated reference exactly if there is one to report. -/
theorem namesGenerated_iff : NamesGenerated mark record ↔ generatedRefsOf mark record ≠ [] := by
  rw [generatedRefsOf, ne_eq, List.filter_eq_nil_iff, List.forall_mem_cons]
  simp only [NamesGenerated, not_and_or, not_forall, not_not, exists_prop]

/-- The report has one entry for each record that names a generated reference, in their order. -/
theorem generatedRefReport_eq (mark : String) (records : List Dependency) :
    generatedRefReport mark records =
      (records.filter (NamesGenerated mark ·)).map (generatedRefEntry mark) := by
  induction records with
  | nil => rfl
  | cons record rest inductionHypothesis =>
      unfold generatedRefReport at inductionHypothesis ⊢
      rw [List.filterMap_cons, inductionHypothesis, List.filter_cons]
      cases named : generatedRefsOf mark record with
      | nil =>
          have unnamed : ¬ NamesGenerated mark record := by simp [namesGenerated_iff, named]
          simp [unnamed]
      | cons first others =>
          have isNamed : NamesGenerated mark record := by simp [namesGenerated_iff, named]
          simp [isNamed, generatedRefEntry, Degradation.atNode, named]

/-- Clearing replaces the reference of a component and nothing else that is known of it. -/
theorem clearGeneratedRef_eq (mark : String) :
    clearGeneratedRef mark =
      fun details => { details with ref := clearedRef mark details.ref } := by
  funext details
  unfold clearGeneratedRef clearedRef
  split <;> rfl

/-- Clearing replaces the references of components and nothing else of a document. -/
theorem clearGenerated_bom (mark : String) (converted : Converted) :
    (clearGenerated mark converted).bom = converted.bom.mapRefs (clearedRef mark) := by
  simp only [clearGenerated, clearGeneratedRefs, Tree.mapAll_eq_map, clearGeneratedRef_eq,
    Bom.mapRefs]

/-- A reference that no component carries is not found. -/
theorem findComponent?_eq_none_iff {bom : Bom} :
    bom.findComponent? ref = none ↔ ref ∉ bom.refs := by
  rw [Bom.findComponent?, Tree.findAll?_eq_none_iff, Bom.refs, List.mem_map]
  simp

/-- What clearing makes of a conversion. -/
theorem clearGenerated_clearedFrom (mark : String) (kept : Converted) :
    ClearedFrom mark kept (clearGenerated mark kept) := by
  have refs : (clearGenerated mark kept).bom.refs = kept.bom.refs.map (clearedRef mark) :=
    clearGenerated_refs mark kept
  have noneGenerated : ∀ ref ∈ (clearGenerated mark kept).bom.refs,
      isGeneratedRef ref mark = false := by
    intro ref member
    rw [refs] at member
    obtain ⟨original, _, rfl⟩ := List.mem_map.mp member
    exact isGeneratedRef_clearedRef mark original
  exact {
    bom := clearGenerated_bom mark kept
    refs := refs
    dependencies := rfl
    report := congrArg (kept.report ++ ·) (generatedRefReport_eq mark kept.bom.dependencies)
    noneGenerated := noneGenerated
    unresolved := by
      intro record _ ref named
      rw [findComponent?_eq_none_iff]
      -- The test by which an entry names a reference is the one by which references are cleared.
      intro carried
      exact absurd (List.mem_filter.mp named).2 (by simp [noneGenerated ref carried]) }

/-- Outside strict mode, a conversion that clears generated references is the one that keeps them
followed by the clearing. -/
theorem convert_lenient_true (behavior : Behavior) (interrupt : Interrupt) (document : Document) :
    convert (behavior.lenient true) interrupt document =
      (convert (behavior.lenient false) interrupt document).map
        (clearGenerated behavior.generatedMark) := by
  cases assembles : assemble interrupt document with
  | error failure =>
      rw [convert_of_assemble_error _ assembles, convert_of_assemble_error _ assembles]
      rfl
  | ok assembled =>
      rw [convert_of_assemble_ok _ assembles, convert_of_assemble_ok _ assembles]
      simp [Behavior.lenient, Except.map]

/-- Clearing generated references comes after everything else. Outside strict mode a conversion
fails with it exactly if it fails without it, and with the same failure. If it succeeds, the
generated references of components at every depth are emptied and nothing else of the document
changes, the report goes on with one entry for each dependency record that names a generated
reference, in the order of the records, and no generated reference that the message of an entry
names belongs to a component any more. -/
theorem convert_clearing (behavior : Behavior) (interrupt : Interrupt) (document : Document) :
    (∀ failure, convert (behavior.lenient false) interrupt document = .error failure ↔
      convert (behavior.lenient true) interrupt document = .error failure) ∧
    ∀ kept, convert (behavior.lenient false) interrupt document = .ok kept →
      ∃ cleared, convert (behavior.lenient true) interrupt document = .ok cleared ∧
        ClearedFrom behavior.generatedMark kept cleared := by
  rw [convert_lenient_true]
  constructor
  · intro failure
    cases convert (behavior.lenient false) interrupt document <;> simp [Except.map]
  · intro kept keeps
    exact ⟨clearGenerated behavior.generatedMark kept, by rw [keeps]; rfl,
      clearGenerated_clearedFrom behavior.generatedMark kept⟩

/-- A document with a generated root, which contains a library that contains a generated reference
and depends on it. A tool depends on the library alone. -/
def ingestedDocument : Document where
  nodeList := {
    nodes := [{ id := "ingest-auto--1" }, { id := "lib" }, { id := "ingest-auto--2" },
      { id := "tool" }]
    edges := [
      ⟨"lib", .contains, ["ingest-auto--2"]⟩,
      ⟨"lib", .dependsOn, ["ingest-auto--2"]⟩,
      ⟨"ingest-auto--1", .contains, ["lib"]⟩,
      ⟨"ingest-auto--1", .dependsOn, ["lib"]⟩,
      ⟨"tool", .dependsOn, ["lib"]⟩]
    rootElements := ["ingest-auto--1"] }

theorem convert_ingestedDocument_clearing :
    ∃ kept cleared,
      convert (({ generatedMark := "ingest-" } : Behavior).lenient false) {} ingestedDocument =
        .ok kept ∧
      convert (({ generatedMark := "ingest-" } : Behavior).lenient true) {} ingestedDocument =
        .ok cleared ∧
      kept.bom.refs = ["ingest-auto--1", "lib", "ingest-auto--2", "tool"] ∧
      kept.report = [] ∧
      cleared.bom.refs = ["", "lib", "", "tool"] ∧
      cleared.report.map Degradation.nodeId = [some "lib", some "ingest-auto--1"] ∧
      cleared.bom.findComponent? "ingest-auto--2" = none := by
  obtain ⟨cleared, clears, clearedFrom⟩ :=
    (convert_clearing { generatedMark := "ingest-" } {} ingestedDocument).2 _ rfl
  refine ⟨_, cleared, rfl, clears, rfl, rfl, clearedFrom.refs.trans rfl, ?_, ?_⟩
  · rw [clearedFrom.report]
    rfl
  · have named : "ingest-auto--2" ∈
        generatedRefsOf "ingest-" ⟨"lib", ["ingest-auto--2"]⟩ := by decide
    exact clearedFrom.unresolved ⟨"lib", ["ingest-auto--2"]⟩
      (by rw [clearedFrom.dependencies]; exact .head _) _ named

end Conversion

end Sbom
