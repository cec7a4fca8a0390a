import Sbom.Proofs.Assembly

/-!
# Which edges are skipped

Whether an edge is skipped can be read off the edges before it: some edge that is not skipped itself
places its source. `takenEdges` takes this as the definition, without a registry and without
placements. `Outline.Follows` ties it to the outline of the same edges, which a conversion follows,
and the dependency records of a conversion are those of the taken dependency edges.
-/

namespace Sbom.Conversion

open CycloneDx (Dependency)
open Sbom.Graph (Document Edge)
open Settings (Behavior)

/-- Whether an edge that is not skipped places a reference: the reference is one of its targets, and
the edge is a dependency or a containment in something else. -/
def PlacesTarget (edge : Edge) (id : String) : Prop :=
  id ∈ edge.targets ∧ (edge.kind = .dependsOn ∨ edge.kind = .contains ∧ edge.source ≠ id)

instance (edge : Edge) (id : String) : Decidable (PlacesTarget edge id) :=
  inferInstanceAs (Decidable (_ ∧ _))

/-- Whether an edge that is not skipped leaves a reference nested, unless that is the root: it is a
containment of the reference in something else. -/
def NestsTarget (edge : Edge) (id : String) : Prop :=
  edge.kind = .contains ∧ id ∈ edge.targets ∧ edge.source ≠ id

/-- Whether an edge is skipped after the edges that were taken: its source is not the root, and one
of them places it. -/
def SkippedAfter (root : Option String) (taken : List Edge) (edge : Edge) : Prop :=
  root ≠ some edge.source ∧ ∃ earlier ∈ taken, PlacesTarget earlier edge.source

instance (root : Option String) (taken : List Edge) (edge : Edge) :
    Decidable (SkippedAfter root taken edge) :=
  inferInstanceAs (Decidable (_ ∧ _))

/-- The edges that were taken and one more, unless it is skipped. -/
def takeEdge (root : Option String) (taken : List Edge) (edge : Edge) : List Edge :=
  if SkippedAfter root taken edge then taken else taken ++ [edge]

/-- The edges that are not skipped, in order. -/
def takenEdges (root : Option String) (edges : List Edge) : List Edge :=
  edges.foldl (takeEdge root) []

/-- The dependency records of edges: the source and the first occurrence of each target. -/
def dependencyRecords (edges : List Edge) : List Dependency :=
  (edges.filter fun edge => edge.kind = .dependsOn).map fun edge =>
    ⟨edge.source, edge.targets.eraseDups⟩

section Taken

variable {root : Option String} {taken edges : List Edge} {edge : Edge}

theorem takeEdge_of_skipped (skipped : SkippedAfter root taken edge) :
    takeEdge root taken edge = taken :=
  if_pos skipped

theorem takeEdge_of_not_skipped (notSkipped : ¬ SkippedAfter root taken edge) :
    takeEdge root taken edge = taken ++ [edge] :=
  if_neg notSkipped

/-- Whether an edge is skipped depends on the taken edges as a set only. -/
theorem skippedAfter_congr {other : List Edge}
    (same : ∀ earlier, earlier ∈ taken ↔ earlier ∈ other) (edge : Edge) :
    SkippedAfter root taken edge ↔ SkippedAfter root other edge := by
  simp only [SkippedAfter, same]

/-- After the same taken edges, whatever their order, the same edges are taken. -/
theorem foldl_takeEdge_congr {other : List Edge}
    (same : ∀ earlier, earlier ∈ taken ↔ earlier ∈ other) (edges : List Edge) :
    ∃ rest, edges.foldl (takeEdge root) taken = taken ++ rest ∧
      edges.foldl (takeEdge root) other = other ++ rest := by
  induction edges generalizing taken other with
  | nil => exact ⟨[], (List.append_nil _).symm, (List.append_nil _).symm⟩
  | cons edge rest inductionHypothesis =>
      rw [List.foldl_cons, List.foldl_cons]
      by_cases skipped : SkippedAfter root taken edge
      · rw [takeEdge_of_skipped skipped,
          takeEdge_of_skipped ((skippedAfter_congr same edge).mp skipped)]
        exact inductionHypothesis same
      · rw [takeEdge_of_not_skipped skipped,
          takeEdge_of_not_skipped (mt (skippedAfter_congr same edge).mpr skipped)]
        have sameNext : ∀ earlier, earlier ∈ taken ++ [edge] ↔ earlier ∈ other ++ [edge] := by
          simp only [List.mem_append, same, implies_true]
        obtain ⟨later, first, second⟩ := inductionHypothesis sameNext
        exact ⟨edge :: later, by simp [first], by simp [second]⟩

theorem dependencyRecords_append (first second : List Edge) :
    dependencyRecords (first ++ second) = dependencyRecords first ++ dependencyRecords second := by
  simp [dependencyRecords]

theorem dependencyRecords_singleton (edge : Edge) :
    dependencyRecords [edge] =
      if edge.kind = .dependsOn then [⟨edge.source, edge.targets.eraseDups⟩] else [] := by
  by_cases kind : edge.kind = .dependsOn <;> simp [dependencyRecords, kind]

/-- The targets of the dependency records of edges are those of the dependency edges. -/
theorem mem_targets_dependencyRecords_iff {id : String} :
    id ∈ (dependencyRecords edges).flatMap Dependency.dependsOn ↔
      ∃ edge ∈ edges, edge.kind = .dependsOn ∧ id ∈ edge.targets := by
  simp [dependencyRecords, List.mem_eraseDups, and_assoc]

end Taken

namespace Outline

variable {outline : Outline} {id source : String}

/-- Nesting one target nests nothing else. -/
theorem mem_contents_nest_iff {target : String} :
    id ∈ (outline.nest source target).forest.contents ↔
      id ∈ outline.forest.contents ∨ id = target ∧ id ≠ source ∧ outline.root ≠ some id := by
  by_cases accepts : outline.Accepts source target
  · obtain ⟨proper, notRoot, fresh⟩ := accepts
    rw [nest_of_accepts ⟨proper, notRoot, fresh⟩, Forest.contents_append, List.mem_append,
      List.mem_singleton]
    constructor
    · rintro (earlier | rfl)
      · exact .inl earlier
      · exact .inr ⟨rfl, proper, notRoot⟩
    · rintro (earlier | ⟨rfl, _⟩)
      · exact .inl earlier
      · exact .inr rfl
  · rw [nest_of_not_accepts accepts]
    refine ⟨.inl, ?_⟩
    rintro (earlier | ⟨rfl, proper, notRoot⟩)
    · exact earlier
    · by_contra fresh
      exact accepts ⟨proper, notRoot, fresh⟩

/-- Nesting several targets nests those that are neither the source nor the root. -/
theorem mem_contents_nestAll_iff (targets : List String) :
    id ∈ (targets.foldl (nest source) outline).forest.contents ↔
      id ∈ outline.forest.contents ∨ id ∈ targets ∧ id ≠ source ∧ outline.root ≠ some id := by
  induction targets generalizing outline with
  | nil => simp
  | cons target rest inductionHypothesis =>
      rw [List.foldl_cons, inductionHypothesis, mem_contents_nest_iff, nest_root, List.mem_cons]
      tauto

/-- An outline that has come from the taken edges: they nest what is nested, the root aside, and
give the dependency records. -/
structure Follows (outline : Outline) (taken : List Edge) : Prop where
  contents_iff : ∀ id, outline.root ≠ some id →
    (id ∈ outline.forest.contents ↔ ∃ edge ∈ taken, NestsTarget edge id)
  dependencies : outline.dependencies = dependencyRecords taken

namespace Follows

variable {taken : List Edge}

/-- A reference other than the root is placed exactly if a taken edge places it: the two ways of being
placed are two kinds of edges. -/
theorem isPlaced_iff (follows : outline.Follows taken) (notRoot : outline.root ≠ some id) :
    outline.IsPlaced id ↔ ∃ edge ∈ taken, PlacesTarget edge id := by
  have targets : id ∈ outline.dependencyTargets ↔
      ∃ edge ∈ taken, edge.kind = .dependsOn ∧ id ∈ edge.targets := by
    rw [dependencyTargets, follows.dependencies, mem_targets_dependencyRecords_iff]
  rw [IsPlaced, follows.contents_iff id notRoot, targets, or_iff_right notRoot, ← exists_or]
  simp only [NestsTarget, PlacesTarget]
  apply exists_congr
  intro edge
  tauto

/-- The outline skips an edge exactly if a taken edge places its source. -/
theorem skips_iff (follows : outline.Follows taken) (edge : Edge) :
    outline.Skips edge ↔ SkippedAfter outline.root taken edge := by
  rw [Skips, SkippedAfter, and_comm]
  exact and_congr_right fun notRoot => follows.isPlaced_iff notRoot

/-- One more edge. -/
theorem follow (follows : outline.Follows taken) (edge : Edge) :
    (outline.follow edge).Follows (takeEdge outline.root taken edge) := by
  by_cases skips : outline.Skips edge
  · rw [follow_of_skips skips, takeEdge_of_skipped ((follows.skips_iff edge).mp skips)]
    exact follows
  · rw [takeEdge_of_not_skipped fun skipped => skips ((follows.skips_iff edge).mpr skipped)]
    have lastToo : ∀ id, (∃ earlier ∈ taken ++ [edge], NestsTarget earlier id) ↔
        (∃ earlier ∈ taken, NestsTarget earlier id) ∨ NestsTarget edge id := by
      intro id
      simp only [List.mem_append, List.mem_singleton, or_and_right, exists_or, exists_eq_left]
    by_cases isContains : edge.kind = .contains
    · obtain ⟨sameRoot, sameDependencies⟩ := nestAll_frame outline edge.source edge.targets
      rw [follow_of_contains skips isContains]
      refine ⟨fun id notRoot => ?_, ?_⟩
      · rw [sameRoot] at notRoot
        rw [mem_contents_nestAll_iff, follows.contents_iff id notRoot, lastToo]
        simp [NestsTarget, isContains, notRoot, eq_comm]
      · rw [sameDependencies, follows.dependencies, dependencyRecords_append,
          dependencyRecords_singleton, if_neg (by simp [isContains]), List.append_nil]
    · have nestsNothing : ∀ id, ¬ NestsTarget edge id := fun id nests => isContains nests.1
      have sameContents : ∀ id, outline.root ≠ some id →
          (id ∈ outline.forest.contents ↔ ∃ earlier ∈ taken ++ [edge], NestsTarget earlier id) := by
        intro id notRoot
        rw [lastToo, or_iff_left (nestsNothing id)]
        exact follows.contents_iff id notRoot
      by_cases isDependsOn : edge.kind = .dependsOn
      · rw [follow_of_dependsOn skips isDependsOn]
        exact ⟨sameContents, by
          rw [follows.dependencies, dependencyRecords_append, dependencyRecords_singleton,
            if_pos isDependsOn]⟩
      · rw [follow_of_other isContains isDependsOn]
        exact ⟨sameContents, by
          rw [follows.dependencies, dependencyRecords_append, dependencyRecords_singleton,
            if_neg isDependsOn, List.append_nil]⟩

/-- Several more edges. -/
theorem followAll (follows : outline.Follows taken) (edges : List Edge) :
    (edges.foldl Outline.follow outline).Follows
      (edges.foldl (takeEdge outline.root) taken) := by
  induction edges generalizing outline taken with
  | nil => exact follows
  | cons edge rest inductionHypothesis =>
      have next := inductionHypothesis (follows.follow edge)
      rw [follow_root] at next
      exact next

end Follows

/-- The outline of edges has come from those that are not skipped. -/
theorem ofEdges_follows (root : Option String) (edges : List Edge) :
    (ofEdges root edges).Follows (takenEdges root edges) := by
  have start : ({ root } : Outline).Follows [] :=
    ⟨fun id _ => by simp [Forest.contents], rfl⟩
  exact start.followAll edges

end Outline

/-- The dependency records of a conversion that succeeds, before generated references are cleared, are
those of the edges it does not skip. -/
theorem assemble_dependencies {interrupt : Interrupt} {document : Document}
    {converted : Converted} (succeeds : assemble interrupt document = .ok converted) :
    converted.bom.dependencies =
      dependencyRecords (takenEdges (resolvedRoot document) document.nodeList.edges) :=
  (assemble_outlined succeeds).dependencies.trans (Outline.ofEdges_follows _ _).dependencies

/-- The dependency records of a conversion, whatever it clears: one for each dependency edge that is
not skipped, in order, with the first occurrence of each target. All references in them are the ids
of nodes and not empty. -/
theorem convert_dependencies {behavior : Behavior} {interrupt : Interrupt} {document : Document}
    {converted : Converted} (succeeds : convert behavior interrupt document = .ok converted) :
    converted.bom.dependencies =
      dependencyRecords (takenEdges (resolvedRoot document) document.nodeList.edges) ∧
    ∀ record ∈ converted.bom.dependencies, ∀ ref ∈ record.ref :: record.dependsOn,
      ref ≠ "" ∧ ∃ node ∈ document.nodeList.nodes, node.id = ref := by
  obtain ⟨assembled, assembles, same⟩ := convert_eq_ok succeeds
  have outlined := assemble_outlined assembles
  have sameRecords : converted.bom.dependencies = (outlineOf document).dependencies := by
    rw [same, ← outlined.dependencies]
    split <;> rfl
  refine ⟨?_, fun record member ref isNamed => ?_⟩
  · rw [sameRecords]
    exact (Outline.ofEdges_follows _ _).dependencies
  · rw [sameRecords] at member
    obtain ⟨sourceMember, targetMembers⟩ := outlined.dependenciesWithin record member
    rcases List.mem_cons.mp isNamed with rfl | isTarget
    · exact mem_registeredIds_iff.mp sourceMember
    · exact mem_registeredIds_iff.mp (targetMembers isTarget)

/-- A document in which edges come from nested sources, from dependency targets, from the root and
from a node that only a skipped edge names as a target. -/
def chainedDocument : Document where
  nodeList := {
    nodes := [{ id := "a" }, { id := "b" }, { id := "c" }, { id := "d" }, { id := "e" }]
    edges := [
      ⟨"a", .contains, ["a", "b"]⟩,
      ⟨"a", .dependsOn, ["c", "c", "b"]⟩,
      ⟨"b", .dependsOn, ["d"]⟩,
      ⟨"d", .dependsOn, ["a", "e"]⟩,
      ⟨"a", .dependsOn, ["e"]⟩,
      ⟨"e", .dependsOn, ["a"]⟩]
    rootElements := ["e"] }

theorem convert_chainedDocument_dependencies :
    ∃ converted, convert {} {} chainedDocument = .ok converted ∧
      converted.bom.dependencies =
        [⟨"a", ["c", "b"]⟩, ⟨"d", ["a", "e"]⟩, ⟨"e", ["a"]⟩] ∧
      ∃ node ∈ chainedDocument.nodeList.nodes, node.id = "b" := by
  obtain ⟨records, named⟩ := convert_dependencies (rfl : convert {} {} chainedDocument = .ok _)
  have expected : dependencyRecords
      (takenEdges (resolvedRoot chainedDocument) chainedDocument.nodeList.edges) =
        [⟨"a", ["c", "b"]⟩, ⟨"d", ["a", "e"]⟩, ⟨"e", ["a"]⟩] := by decide
  rw [expected] at records
  exact ⟨_, rfl, records, (named ⟨"a", ["c", "b"]⟩ (by rw [records]; decide) "b" (by decide)).2⟩

end Sbom.Conversion
