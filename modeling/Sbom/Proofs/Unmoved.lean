import Sbom.Proofs.Dangling
import Sbom.Proofs.Occurrence

/-!
# Nodes that no other node moves

A containment or dependency of another node can take a node away from the top level. A containment of
a node in itself cannot, since a node is not nested in itself. A dependency places all of its targets,
its own source if that is one of them, and a node that is only placed by dependencies is no component
of the output. So a node that no other node moves stands at the top level, unless it depends on
itself.
-/

namespace Sbom.Conversion

open CycloneDx (Component)
open Sbom.Graph (Document Edge)
open Settings (Behavior)

/-- Whether an edge moves a node as an edge of another one: a containment or dependency that has the
node among its targets. -/
def Moves (edge : Edge) (id : String) : Prop :=
  (edge.kind = .contains ∨ edge.kind = .dependsOn) ∧ edge.source ≠ id ∧ id ∈ edge.targets

instance (edge : Edge) (id : String) : Decidable (Moves edge id) :=
  inferInstanceAs (Decidable (_ ∧ _))

/-- Whether an edge is a dependency of a node on itself. -/
def IsOwnDependency (edge : Edge) (id : String) : Prop :=
  edge.kind = .dependsOn ∧ edge.source = id ∧ id ∈ edge.targets

instance (edge : Edge) (id : String) : Decidable (IsOwnDependency edge id) :=
  inferInstanceAs (Decidable (_ ∧ _))

section Taken

variable {root : Option String} {edges : List Edge} {edge : Edge} {id : String}

/-- Every edge is taken, or skipped because of one that is. -/
theorem mem_takenEdges_or_skippedAfter (root : Option String) (member : edge ∈ edges) :
    edge ∈ takenEdges root edges ∨ SkippedAfter root (takenEdges root edges) edge := by
  obtain ⟨before, after, rfl⟩ := List.mem_iff_append.mp member
  have stays := takeEdge_subset_takenEdges root before after edge
  by_cases skipped : SkippedAfter root (takenEdges root before) edge
  · rw [takeEdge_of_skipped skipped] at stays
    obtain ⟨notRoot, earlier, isTaken, places⟩ := skipped
    exact .inr ⟨notRoot, earlier, stays isTaken, places⟩
  · rw [takeEdge_of_not_skipped skipped] at stays
    exact .inl (stays (List.mem_append_right _ List.mem_cons_self))

/-- Taken edges are some of the edges. -/
theorem takenEdges_subset : takenEdges root edges ⊆ edges := by
  induction edges using List.reverseRecOn with
  | nil => exact List.Subset.refl _
  | append_singleton edges edge inductionHypothesis =>
      rw [takenEdges_append_singleton, takeEdge]
      split
      · exact List.subset_append_of_subset_left _ inductionHypothesis
      · exact List.append_subset.mpr ⟨List.subset_append_of_subset_left _ inductionHypothesis,
          List.subset_append_right _ _⟩

/-- What no edge of another node moves is placed exactly by dependencies on itself. -/
theorem exists_placesTarget_iff_of_unmoved (notRoot : root ≠ some id)
    (unmoved : ∀ edge ∈ edges, ¬ Moves edge id) :
    (∃ edge ∈ takenEdges root edges, PlacesTarget edge id) ↔
      ∃ edge ∈ edges, IsOwnDependency edge id := by
  constructor
  · rintro ⟨edge, isTaken, isTarget, kind⟩
    have member := takenEdges_subset isTaken
    have own : edge.source = id := by
      by_contra other
      exact unmoved edge member ⟨kind.symm.imp_left And.left, other, isTarget⟩
    exact ⟨edge, member, kind.resolve_right fun nests => nests.2 own, own, isTarget⟩
  · rintro ⟨edge, member, kind, rfl, isTarget⟩
    rcases mem_takenEdges_or_skippedAfter root member with isTaken | ⟨_, places⟩
    · exact ⟨edge, isTaken, isTarget, .inl kind⟩
    · exact places

end Taken

/-- A node that is not the root and that no other node moves stands at the top level with everything
its first node says, unless it depends on itself; then it occurs nowhere. -/
theorem convert_unmoved {behavior : Behavior} {interrupt : Interrupt} {document : Document}
    {converted : Converted} (keepsRefs : behavior.clearGeneratedRefs = false)
    (succeeds : convert behavior interrupt document = .ok converted) :
    ∀ id ∈ registeredIds document.nodeList.nodes, resolvedRoot document ≠ some id →
      (∀ edge ∈ document.nodeList.edges, ¬ Moves edge id) →
      ((∀ edge ∈ document.nodeList.edges, ¬ IsOwnDependency edge id) →
        ∃ node component, document.nodeList.nodes.find? (fun node => node.id == id) = some node ∧
          component ∈ converted.bom.components ∧
          component.value = (mappedComponent node).value) ∧
      ((∃ edge ∈ document.nodeList.edges, IsOwnDependency edge id) →
        id ∉ converted.bom.refs) := by
  intro id member notRoot unmoved
  have outlined := convert_outlined keepsRefs succeeds
  have follows : (outlineOf document).Follows _ := Outline.ofEdges_follows _ _
  have outlineRoot : (outlineOf document).root ≠ some id := by rwa [outlineOf_root]
  have placed : (outlineOf document).IsPlaced id ↔
      ∃ edge ∈ document.nodeList.edges, IsOwnDependency edge id := by
    rw [follows.isPlaced_iff outlineRoot, exists_placesTarget_iff_of_unmoved notRoot unmoved]
  constructor
  · intro independent
    have notPlaced : ¬ (outlineOf document).IsPlaced id := by simpa [placed] using independent
    obtain ⟨node, found⟩ := exists_find?_of_mem member
    refine ⟨node, treeOf document id, found, ?_, ?_⟩
    · rw [outlined.components]
      exact List.mem_map_of_mem (mem_unplacedIds_iff.mpr ⟨member, notPlaced⟩)
    · rw [treeOf, (outlineOf_orderly document).tree_eq,
        recordOf_of_find? found (mem_registeredIds_iff.mp member).1]
      rfl
  · intro ownDependency
    -- Nothing nests the node, so it is the end of its own containers, and that end is placed.
    have free : id ∉ (outlineOf document).forest.contents := by
      rw [follows.contents_iff id outlineRoot]
      rintro ⟨edge, isTaken, kind, isTarget, other⟩
      exact unmoved edge (takenEdges_subset isTaken) ⟨.inl kind, other, isTarget⟩
    rw [outlined.mem_refs_iff member (.here free), not_or, not_not]
    exact ⟨notRoot, placed.mpr ownDependency⟩

/-- A document in which one node contains itself and another one depends on itself. -/
def selfishDocument : Document where
  nodeList := {
    nodes := [{ id := "a", version := "1" }, { id := "b", version := "2" }]
    edges := [⟨"a", .contains, ["a"]⟩, ⟨"b", .dependsOn, ["b"]⟩] }

theorem convert_selfishDocument :
    ({ clearGeneratedRefs := false } : Behavior).clearGeneratedRefs = false ∧
    ∃ converted, convert { clearGeneratedRefs := false } {} selfishDocument = .ok converted ∧
      (∃ component ∈ converted.bom.components, component.ref = "a" ∧
        component.value.version = "1") ∧
      "b" ∉ converted.bom.refs := by
  have keepsRefs : ({ clearGeneratedRefs := false } : Behavior).clearGeneratedRefs = false := rfl
  refine ⟨keepsRefs, _, rfl, ?_⟩
  have stands := convert_unmoved keepsRefs
    (rfl : convert { clearGeneratedRefs := false } {} selfishDocument = .ok _)
  obtain ⟨node, component, found, isTop, fields⟩ :=
    (stands "a" (by decide) (by decide) (by decide)).1 (by decide)
  cases found
  refine ⟨⟨component, isTop, congrArg _ fields, congrArg _ fields⟩, ?_⟩
  exact (stands "b" (by decide) (by decide) (by decide)).2 (by decide)

/-- A node that no other node moves need not stand at the top level. -/
theorem not_forall_unmoved_topLevel :
    ¬ ∀ (behavior : Behavior) (interrupt : Interrupt) (document : Document) (converted : Converted),
      behavior.clearGeneratedRefs = false →
      convert behavior interrupt document = .ok converted →
      ∀ id ∈ registeredIds document.nodeList.nodes, resolvedRoot document ≠ some id →
        (∀ edge ∈ document.nodeList.edges, ¬ Moves edge id) →
        id ∈ converted.bom.components.map Component.ref := by
  intro allStand
  have stands := allStand { clearGeneratedRefs := false } {} selfishDocument _ rfl rfl "b"
    (by decide) (by decide) (by decide)
  revert stands
  decide

end Sbom.Conversion
