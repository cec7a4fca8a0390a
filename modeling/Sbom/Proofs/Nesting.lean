import Sbom.Proofs.Accounting
import Sbom.Proofs.Dangling
import Sbom.Proofs.Occurrence

/-!
# What containment edges nest

The order of the edges matters. A containment edge that is not skipped nests each of its targets,
or finds it nested already. One that comes after its source was placed is skipped, and its targets
stay where the other edges put them: what is listed from the top down, a container before its
contents, stops at the second level. Both cases are stated at the position of the edge.
-/

namespace Sbom.Conversion

open CycloneDx (Component Dependency)
open Sbom.Graph (Document Edge)
open Settings (Behavior)

/-- Every skipped edge is reported as such. -/
theorem Represents.skippedEdge_mem_report {ids : List String} {record : String → Component}
    {outline : Outline} {registry : Registry} {taken : List Edge} {interrupt : Interrupt}
    {index : Nat} {dependencies : List Dependency}
    (represents : Represents ids record outline registry) (named : Forest.Named ids record)
    (follows : outline.Follows taken) (before after : List Edge) (edge : Edge)
    (succeeds : (Conversion.resolveEdgesFrom interrupt index (before ++ edge :: after)
      registry).result = .ok dependencies)
    (skipped : SkippedAfter outline.root (before.foldl (takeEdge outline.root) taken) edge) :
    skippedEdge edge ∈ (Conversion.resolveEdgesFrom interrupt index (before ++ edge :: after)
      registry).report := by
  induction before generalizing index outline registry taken dependencies with
  | nil =>
      obtain ⟨found, _, first, _, _, _, report⟩ := resolveEdgesFrom_cons_eq_ok succeeds
      obtain ⟨_, step⟩ | ⟨notSkipped, _⟩ := edgeStep_eq_ok first
      · rw [List.nil_append, report, step]
        exact List.mem_append_left _ List.mem_cons_self
      · rw [(represents.isSkipped_iff_skippedAfter follows edge).mpr skipped] at notSkipped
        cases notSkipped
  | cons other rest inductionHypothesis =>
      obtain ⟨found, _, first, later, _, _, report⟩ := resolveEdgesFrom_cons_eq_ok succeeds
      obtain ⟨representsNext, _⟩ := represents.edgeStep named first
      refine report ▸ List.mem_append_right _ ?_
      refine inductionHypothesis representsNext (follows.follow other) later ?_
      rwa [Outline.follow_root]

section Document

variable {behavior : Behavior} {interrupt : Interrupt} {document : Document}
  {converted : Converted} {before after : List Edge} {edge : Edge} {id : String}

/-- A conversion reports the edges that it skips. -/
theorem skippedEdge_mem_of_convert (succeeds : convert behavior interrupt document = .ok converted)
    (position : document.nodeList.edges = before ++ edge :: after)
    (skipped : SkippedAfter (resolvedRoot document) (takenEdges (resolvedRoot document) before)
      edge) : skippedEdge edge ∈ converted.report := by
  obtain ⟨registry, nodeReport, dependencies, registered, resolved, _, reported⟩ :=
    convert_report_prefix succeeds
  have start := (resolveRoot_represents (registerNodes_populated registered)).1
  rw [position] at resolved reported
  have isReported := start.skippedEdge_mem_report (recordOf_named _)
    (Outline.ofEdges_follows _ []) before after edge resolved skipped
  exact reported.subset (List.mem_append_right _ isReported)

/-- A reference other than the root is placed exactly if a taken edge of its document places it. -/
theorem outlineOf_isPlaced_iff (notRoot : resolvedRoot document ≠ some id) :
    (outlineOf document).IsPlaced id ↔
      ∃ edge ∈ takenEdges (resolvedRoot document) document.nodeList.edges,
        PlacesTarget edge id := by
  have follows : (outlineOf document).Follows _ := Outline.ofEdges_follows _ _
  exact follows.isPlaced_iff (by rwa [outlineOf_root])

/-- What a containment edge does to a target that is neither its source nor the resolved root. If the
edge is not skipped, the target is neither at the top level nor the root, and it is nested exactly
once, unless its outermost container is no more than the target of a dependency. If the edge is
skipped, that is reported, and the target is at the top level exactly if no edge that is not skipped
places it. -/
theorem convert_containments (keepsRefs : behavior.clearGeneratedRefs = false)
    (succeeds : convert behavior interrupt document = .ok converted)
    (position : document.nodeList.edges = before ++ edge :: after)
    (kind : edge.kind = .contains) :
    ∀ target ∈ edge.targets, target ∈ registeredIds document.nodeList.nodes →
      target ≠ edge.source → resolvedRoot document ≠ some target →
      (¬ SkippedAfter (resolvedRoot document) (takenEdges (resolvedRoot document) before) edge →
        target ∉ converted.bom.components.map Component.ref ∧
        converted.bom.metadata.component.map Component.ref ≠ some target ∧
        ((∀ top, (outlineOf document).forest.Outermost target top →
            ¬ (outlineOf document).IsOnlyDependency top) →
          converted.bom.nestedRefs.count target = 1)) ∧
      (SkippedAfter (resolvedRoot document) (takenEdges (resolvedRoot document) before) edge →
        ⟨.skippedEdge, some edge.source, "source is already attached elsewhere, edge '" ++
          edge.source ++ " --" ++ edge.kind.name ++ "--> [" ++ ", ".intercalate edge.targets ++
            "]' was skipped"⟩ ∈ converted.report ∧
        (target ∈ converted.bom.components.map Component.ref ↔
          ∀ other ∈ takenEdges (resolvedRoot document) document.nodeList.edges,
            ¬ PlacesTarget other target)) := by
  intro target isTarget member proper notRoot
  have outlined := convert_outlined keepsRefs succeeds
  have notAtRoot := mt (outlined.rootRef_eq_some_iff member).mp notRoot
  constructor
  · intro notSkipped
    have isTaken : edge ∈ takenEdges (resolvedRoot document) document.nodeList.edges := by
      rw [position]
      apply takeEdge_subset_takenEdges
      rw [takeEdge_of_not_skipped notSkipped]
      exact List.mem_append_right _ List.mem_cons_self
    have placed : (outlineOf document).IsPlaced target :=
      (outlineOf_isPlaced_iff notRoot).mpr
        ⟨edge, isTaken, isTarget, .inr ⟨kind, Ne.symm proper⟩⟩
    have notTopLevel : target ∉ converted.bom.components.map Component.ref := fun topLevel =>
      (outlined.mem_topLevel_iff member).mp topLevel placed
    refine ⟨notTopLevel, notAtRoot, fun kept => ?_⟩
    obtain ⟨top, outermost⟩ := (outlineOf_orderly document).exists_outermost target
    have emitted := (isEmitted_iff_of_not_nested outermost.top_not_nested).mpr (kept top outermost)
    have once : converted.bom.refs.count target = 1 := by
      rw [outlined.count_refs member outermost, if_pos]
      exact (mem_emittedIds_iff (outermost.top_mem outlined.within member)).mpr emitted
    obtain ⟨_, _, nested⟩ := outlined.place_of_count member once
    exact converted.bom.count_nestedRefs_of_count once (nested.mpr ⟨placed, notRoot⟩)
  · intro skipped
    refine ⟨skippedEdge_eq edge ▸ skippedEdge_mem_of_convert succeeds position skipped, ?_⟩
    rw [outlined.mem_topLevel_iff member, outlineOf_isPlaced_iff notRoot]
    simp only [not_exists, not_and]

/-- A document that lists a plugin with its library from the top down, and the library with a part
before it was placed. -/
def topDownDocument : Document where
  nodeList := {
    nodes := [{ id := "app" }, { id := "plugin" }, { id := "lib" }, { id := "part" }]
    edges := [
      ⟨"lib", .contains, ["part"]⟩,
      ⟨"app", .contains, ["plugin"]⟩,
      ⟨"plugin", .contains, ["lib"]⟩]
    rootElements := ["app"] }

theorem convert_topDownDocument :
    ({ clearGeneratedRefs := false } : Behavior).clearGeneratedRefs = false ∧
    ∃ converted, convert { clearGeneratedRefs := false } {} topDownDocument = .ok converted ∧
      converted.bom.nestedRefs.count "part" = 1 ∧
      "part" ∉ converted.bom.components.map Component.ref ∧
      "lib" ∈ converted.bom.components.map Component.ref ∧
      ⟨.skippedEdge, some "plugin",
        "source is already attached elsewhere, edge 'plugin --contains--> [lib]' was skipped"⟩ ∈
          converted.report := by
  have keepsRefs : ({ clearGeneratedRefs := false } : Behavior).clearGeneratedRefs = false := rfl
  refine ⟨keepsRefs, _, rfl, ?_⟩
  have contains := fun before edge after =>
    @convert_containments _ {} topDownDocument _ before after edge keepsRefs rfl
  obtain ⟨notTopLevel, _, nested⟩ :=
    (contains [] _ _ rfl rfl "part" (by decide) (by decide) (by decide) (by decide)).1 (by decide)
  obtain ⟨reported, topLevel⟩ :=
    (contains [_, _] _ [] rfl rfl "lib" (by decide) (by decide) (by decide) (by decide)).2
      (by decide)
  refine ⟨nested fun top _ onlyDependency => ?_, notTopLevel, topLevel.mpr (by decide), reported⟩
  exact absurd onlyDependency.1 List.not_mem_nil

/-- A containment edge need not nest its targets. -/
theorem not_forall_containments_nested :
    ¬ ∀ (behavior : Behavior) (interrupt : Interrupt) (document : Document) (converted : Converted),
      behavior.clearGeneratedRefs = false →
      convert behavior interrupt document = .ok converted →
      ∀ edge ∈ document.nodeList.edges, edge.kind = .contains →
        ∀ target ∈ edge.targets, target ∈ registeredIds document.nodeList.nodes →
          target ≠ edge.source → resolvedRoot document ≠ some target →
          converted.bom.nestedRefs.count target = 1 ∧
            target ∉ converted.bom.components.map Component.ref := by
  intro allNested
  have nested := allNested { clearGeneratedRefs := false } {} topDownDocument _ rfl rfl
    ⟨"plugin", .contains, ["lib"]⟩ (by decide) rfl "lib" (by decide) (by decide) (by decide)
    (by decide)
  revert nested
  decide

end Document

end Sbom.Conversion
