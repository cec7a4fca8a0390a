import Sbom.Proofs.Skipping

/-!
# The record that is found for a reference

A conversion gives one dependency record for each dependency edge that is not skipped, so a reference
may have several records. The one that is found for it is that of its first edge; what only a later
edge names stands in a later record. So the record found is complete exactly if the later edges name
nothing new.
-/

namespace Sbom.Conversion

open CycloneDx (Bom Dependency)
open Sbom.Graph (Document Edge)
open Settings (Behavior)

/-- The dependency edges from a reference, in order. -/
def dependencyEdgesFrom (ref : String) (edges : List Edge) : List Edge :=
  edges.filter fun edge => edge.kind = .dependsOn ∧ edge.source = ref

/-- Whether the record that is found for a reference names every target of some edges. -/
def FindsTargets (bom : Bom) (ref : String) (edges : List Edge) : Prop :=
  ∀ edge ∈ edges, ∀ target ∈ edge.targets,
    ∃ record, bom.dependency? ref = some record ∧ target ∈ record.dependsOn

section Records

variable {bom : Bom} {edges : List Edge}

/-- The records of a reference are those of the dependency edges from it. -/
theorem filter_dependencyRecords (edges : List Edge) (ref : String) :
    (dependencyRecords edges).filter (fun record => record.ref = ref) =
      (dependencyEdgesFrom ref edges).map fun edge => ⟨ref, edge.targets.eraseDups⟩ := by
  have fromRef : ∀ edge ∈ dependencyEdgesFrom ref edges, edge.source = ref := by
    simp [dependencyEdgesFrom]
  have sameEdges : (edges.filter fun edge => edge.kind = .dependsOn).filter
      (fun edge => edge.source = ref) = dependencyEdgesFrom ref edges := by
    rw [List.filter_filter, dependencyEdgesFrom]
    exact List.filter_congr fun edge _ => by simp [and_comm]
  calc (dependencyRecords edges).filter (fun record => record.ref = ref)
    _ = (dependencyEdgesFrom ref edges).map
          fun edge => ⟨edge.source, edge.targets.eraseDups⟩ := by
        rw [dependencyRecords, List.filter_map, ← sameEdges]
        rfl
    _ = _ := List.map_congr_left fun edge member => by rw [fromRef edge member]

/-- The record found for a reference is that of the first dependency edge from it. -/
theorem dependency?_of_dependencyRecords (records : bom.dependencies = dependencyRecords edges)
    (ref : String) :
    bom.dependency? ref =
      (dependencyEdgesFrom ref edges).head?.map fun edge => ⟨ref, edge.targets.eraseDups⟩ := by
  have asProp : (fun record : Dependency => record.ref == ref) =
      fun record => decide (record.ref = ref) := rfl
  rw [Bom.dependency?, records, asProp, ← List.head?_filter, filter_dependencyRecords,
    List.head?_map]

/-- The record found for a reference names every target of the edges from it exactly if their first
one does. -/
theorem findsTargets_iff (records : bom.dependencies = dependencyRecords edges) (ref : String) :
    FindsTargets bom ref (dependencyEdgesFrom ref edges) ↔
      ∀ first ∈ (dependencyEdgesFrom ref edges).head?,
        ∀ edge ∈ dependencyEdgesFrom ref edges, edge.targets ⊆ first.targets := by
  rw [FindsTargets, dependency?_of_dependencyRecords records]
  cases dependencyEdgesFrom ref edges with
  | nil => simp
  | cons first later => simp [List.mem_eraseDups, List.subset_def]

end Records

/-- The dependency records of a conversion are those of the edges it does not skip, whatever it
clears. -/
theorem convert_dependencyRecords {behavior : Behavior} {interrupt : Interrupt}
    {document : Document} {converted : Converted}
    (succeeds : convert behavior interrupt document = .ok converted) :
    converted.bom.dependencies =
      dependencyRecords (takenEdges (resolvedRoot document) document.nodeList.edges) := by
  obtain ⟨assembled, assembles, same⟩ := convert_eq_ok succeeds
  have kept : converted.bom.dependencies = assembled.bom.dependencies := by
    rw [same]
    split <;> rfl
  exact kept.trans (assemble_dependencies assembles)

/-- The records of a reference after a conversion are those of the dependency edges from it that are
not skipped: one record for each edge, in order, with all targets of the edge. The one that is found
for the reference is the first of them. It names the targets of all these edges exactly if no later
edge has a target that the first one has not. -/
theorem convert_firstRecord {behavior : Behavior} {interrupt : Interrupt} {document : Document}
    {converted : Converted} (succeeds : convert behavior interrupt document = .ok converted)
    (ref : String) :
    let own := dependencyEdgesFrom ref
      (takenEdges (resolvedRoot document) document.nodeList.edges)
    converted.bom.dependencies.filter (fun record => record.ref = ref) =
      own.map (fun edge => ⟨ref, edge.targets.eraseDups⟩) ∧
    converted.bom.dependency? ref =
      own.head?.map (fun edge => ⟨ref, edge.targets.eraseDups⟩) ∧
    FindsTargets converted.bom ref own.head?.toList ∧
    (∀ edge ∈ own, ∃ record ∈ converted.bom.dependencies,
      record.ref = ref ∧ ∀ target, target ∈ record.dependsOn ↔ target ∈ edge.targets) ∧
    (FindsTargets converted.bom ref own ↔
      ∀ first ∈ own.head?, ∀ edge ∈ own, edge.targets ⊆ first.targets) := by
  intro own
  have records := convert_dependencyRecords succeeds
  have recordsOfRef : converted.bom.dependencies.filter (fun record => record.ref = ref) =
      own.map fun edge => ⟨ref, edge.targets.eraseDups⟩ := by
    rw [records]
    exact filter_dependencyRecords _ ref
  have found := dependency?_of_dependencyRecords records ref
  refine ⟨recordsOfRef, found, ?_, ?_, findsTargets_iff records ref⟩
  · intro edge isFirst target isTarget
    rw [Option.mem_toList] at isFirst
    refine ⟨⟨ref, edge.targets.eraseDups⟩, ?_, List.mem_eraseDups.mpr isTarget⟩
    rw [found]
    exact congrArg _ isFirst
  · intro edge member
    have isRecord : (⟨ref, edge.targets.eraseDups⟩ : Dependency) ∈
        converted.bom.dependencies.filter (fun record => record.ref = ref) := by
      rw [recordsOfRef]
      exact List.mem_map_of_mem member
    exact ⟨_, List.mem_of_mem_filter isRecord, rfl, fun target => List.mem_eraseDups⟩

/-- A document in which one node has two dependency edges with different targets. -/
def splitDocument : Document where
  nodeList := {
    nodes := [{ id := "a" }, { id := "b" }, { id := "c" }]
    edges := [⟨"a", .dependsOn, ["b", "b"]⟩, ⟨"a", .dependsOn, ["b", "c"]⟩] }

theorem convert_splitDocument :
    ∃ converted, convert {} {} splitDocument = .ok converted ∧
      converted.bom.dependency? "a" = some ⟨"a", ["b"]⟩ ∧
      (∃ record ∈ converted.bom.dependencies, record.ref = "a" ∧ "c" ∈ record.dependsOn) := by
  obtain ⟨-, found, -, named, -⟩ :=
    convert_firstRecord (rfl : convert {} {} splitDocument = .ok _) "a"
  obtain ⟨record, member, ofRef, targets⟩ := named ⟨"a", .dependsOn, ["b", "c"]⟩ (by decide)
  exact ⟨_, rfl, found.trans (by decide), record, member, ofRef, (targets "c").mpr (by decide)⟩

/-- The record found for a reference does not always name every target of the edges from it. -/
theorem not_forall_findsTargets :
    ¬ ∀ (behavior : Behavior) (interrupt : Interrupt) (document : Document) (converted : Converted),
      convert behavior interrupt document = .ok converted → ∀ ref,
        FindsTargets converted.bom ref (dependencyEdgesFrom ref
          (takenEdges (resolvedRoot document) document.nodeList.edges)) := by
  intro always
  obtain ⟨converted, succeeds⟩ : ∃ converted, convert {} {} splitDocument = .ok converted :=
    ⟨_, rfl⟩
  have finds := always {} {} splitDocument converted succeeds "a"
  rw [findsTargets_iff (convert_dependencyRecords succeeds)] at finds
  revert finds
  decide

end Sbom.Conversion
