import Sbom.Proofs.Occurrence

/-!
# Conversions that report nothing

A conversion with an empty report took every edge as it is stated: no edge was skipped, no target of
a containment was refused and none of a dependency repeated. Its outline is therefore read off the
edges directly.

An empty report does not keep every reference. A tree whose root is placed by a dependency alone is
not emitted, and what was copied into it before leaves with it. Which references are lost in this way
is said exactly.
-/

namespace Sbom.CycloneDx

/-- Whether a document names a reference: a component has it, or a dependency record mentions it. -/
def Bom.Names (bom : Bom) (ref : String) : Prop :=
  ref ∈ bom.refs ∨ ∃ record ∈ bom.dependencies, ref = record.ref ∨ ref ∈ record.dependsOn

instance (bom : Bom) (ref : String) : Decidable (bom.Names ref) :=
  inferInstanceAs (Decidable (_ ∨ _))

end Sbom.CycloneDx

namespace Sbom.Conversion

open CycloneDx (Bom Component Dependency)
open Sbom.Graph (Document Edge)
open Settings (Behavior)

/-- The containments that an edge states. -/
def statedContainments (edge : Edge) : Forest :=
  if edge.kind = .contains then edge.targets.map (Containment.mk edge.source) else []

/-- The dependency record that an edge states. -/
def statedDependency? (edge : Edge) : Option Dependency :=
  if edge.kind = .dependsOn then some ⟨edge.source, edge.targets⟩ else none

/-- An outline with everything that edges state, taken as it is. -/
def Outline.state (outline : Outline) (edges : List Edge) : Outline :=
  { outline with
    forest := outline.forest ++ edges.flatMap statedContainments
    dependencies := outline.dependencies ++ edges.filterMap statedDependency? }

namespace Outline

theorem state_of_contains {outline : Outline} {edge : Edge} (kind : edge.kind = .contains) :
    outline.state [edge] = { outline with
      forest := outline.forest ++ edge.targets.map (Containment.mk edge.source) } := by
  simp [state, statedContainments, statedDependency?, kind]

theorem state_of_dependsOn {outline : Outline} {edge : Edge} (kind : edge.kind = .dependsOn) :
    outline.state [edge] = { outline with
      dependencies := outline.dependencies ++ [⟨edge.source, edge.targets⟩] } := by
  simp [state, statedContainments, statedDependency?, kind]

theorem state_cons (outline : Outline) (edge : Edge) (rest : List Edge) :
    outline.state (edge :: rest) = (outline.state [edge]).state rest := by
  cases stated : statedDependency? edge <;> simp [state, stated]

end Outline

namespace Represents

variable {ids : List String} {record : String → Component} {outline : Outline}
  {registry : Registry} {source : String} {edge : Edge}

/-- If no target is reported, all of them are nested. -/
theorem attachTargets_reportless (represents : Represents ids record outline registry)
    (named : Forest.Named ids record) (sourceMember : source ∈ ids)
    (outer : source ∉ outline.forest.contents) (targets : List String)
    (succeeds : (Conversion.attachTargets source targets registry).result = .ok ())
    (nothing : (Conversion.attachTargets source targets registry).report = []) :
    targets.foldl (Outline.nest source) outline =
      { outline with forest := outline.forest ++ targets.map (Containment.mk source) } := by
  induction targets generalizing outline registry with
  | nil => simp
  | cons target rest inductionHypothesis =>
      obtain ⟨next, representsNext, succeedsNext, _, report⟩ :=
        represents.attachTarget named sourceMember outer succeeds
      have outerNext := (Outline.nest_orderly target represents.orderly outer).2
      rw [report, List.append_eq_nil_iff] at nothing
      obtain ⟨notReported, nothingLater⟩ := nothing
      have accepts : outline.Accepts source target := by
        by_contra refused
        simp [refused] at notReported
      rw [List.foldl_cons,
        inductionHypothesis representsNext outerNext succeedsNext nothingLater,
        Outline.nest_of_accepts accepts]
      simp

/-- If an edge reports nothing, it is taken as it is stated. -/
theorem edgeStep_reportless (represents : Represents ids record outline registry)
    (named : Forest.Named ids record) {interrupt : Interrupt} {index : Nat}
    {found : Option Dependency}
    (succeeds : (Conversion.edgeStep interrupt index edge registry).result = .ok found)
    (nothing : (Conversion.edgeStep interrupt index edge registry).report = []) :
    outline.follow edge = outline.state [edge] := by
  obtain ⟨_, step⟩ | ⟨notSkipped, known, resolved⟩ := edgeStep_eq_ok succeeds
  · simp [step] at nothing
  · have sourceMember := (represents.contains_iff named).mp known
    have taken : ¬ outline.Skips edge := by
      rw [← represents.isSkipped_iff, notSkipped]
      exact Bool.false_ne_true
    obtain ⟨kind, attached, step⟩ | ⟨kind, report, targets, distinct, step⟩ | ⟨_, _, step⟩ :=
      resolved <;> rw [step] at nothing
    · have outer := Outline.source_not_nested represents.orderly taken
      rw [Outline.follow_of_contains taken kind, Outline.state_of_contains kind]
      exact represents.attachTargets_reportless named sourceMember outer edge.targets attached
        nothing
    · obtain ⟨firsts, _, complete⟩ := distinctTargets_eq_ok edge.targets [] distinct
      have firstTargets : targets = edge.targets.eraseDups := by simpa using firsts
      rw [Outline.follow_of_dependsOn taken kind, Outline.state_of_dependsOn kind, ← firstTargets,
        complete nothing]
    · simp at nothing

/-- If edges report nothing, they are taken as they are stated. -/
theorem resolveEdgesFrom_reportless (represents : Represents ids record outline registry)
    (named : Forest.Named ids record) {interrupt : Interrupt} {index : Nat} (edges : List Edge)
    {dependencies : List Dependency}
    (succeeds : (Conversion.resolveEdgesFrom interrupt index edges registry).result =
      .ok dependencies)
    (nothing : (Conversion.resolveEdgesFrom interrupt index edges registry).report = []) :
    edges.foldl Outline.follow outline = outline.state edges := by
  induction edges generalizing index outline registry dependencies with
  | nil => simp [Outline.state]
  | cons edge rest inductionHypothesis =>
      obtain ⟨found, others, first, later, _, _, report⟩ := resolveEdgesFrom_cons_eq_ok succeeds
      rw [report, List.append_eq_nil_iff] at nothing
      obtain ⟨nothingFirst, nothingLater⟩ := nothing
      have representsNext := (represents.edgeStep named first).1
      rw [List.foldl_cons, inductionHypothesis representsNext later nothingLater,
        represents.edgeStep_reportless named first nothingFirst, ← Outline.state_cons]

end Represents

/-- The outline of a document whose conversion reports nothing is what its edges state. -/
theorem outlineOf_reportless {interrupt : Interrupt} {document : Document} {converted : Converted}
    (succeeds : assemble interrupt document = .ok converted) (nothing : converted.report = []) :
    outlineOf document =
      Outline.state { root := resolvedRoot document } document.nodeList.edges := by
  obtain ⟨registry, nodeReport, metadata, dependencies, registered, _, resolved, rfl⟩ :=
    assemble_eq_ok succeeds
  have start := (resolveRoot_represents (registerNodes_populated registered)).1
  have nothingInEdges : (resolveEdgesFrom interrupt 0 document.nodeList.edges
      (resolveRoot registry document.nodeList.rootElements).1).report = [] := by
    simp only [List.append_eq_nil_iff] at nothing
    exact nothing.2
  exact start.resolveEdgesFrom_reportless (recordOf_named _) _ resolved nothingInEdges

section Stated

variable {edges : List Edge} {id : String}

/-- The dependency records that edges state are those of the dependency edges. -/
theorem exists_stated_iff {root : Option String} {property : Dependency → Prop} :
    (∃ record ∈ (Outline.state { root } edges).dependencies, property record) ↔
      ∃ edge ∈ edges, edge.kind = .dependsOn ∧ property ⟨edge.source, edge.targets⟩ := by
  have sameRecords : (Outline.state { root } edges).dependencies =
      edges.filterMap statedDependency? := List.nil_append _
  rw [sameRecords]
  constructor
  · rintro ⟨record, member, holds⟩
    obtain ⟨edge, edgeMember, isStated⟩ := List.mem_filterMap.mp member
    obtain ⟨kind, sameRecord⟩ := Option.ite_none_right_eq_some.mp isStated
    cases sameRecord
    exact ⟨edge, edgeMember, kind, holds⟩
  · rintro ⟨edge, edgeMember, kind, holds⟩
    exact ⟨_, List.mem_filterMap.mpr ⟨edge, edgeMember, if_pos kind⟩, holds⟩

/-- The dependency targets that edges state. -/
theorem mem_dependencyTargets_state_iff {root : Option String} :
    id ∈ (Outline.state { root } edges).dependencyTargets ↔
      ∃ edge ∈ edges, edge.kind = .dependsOn ∧ id ∈ edge.targets := by
  rw [Outline.dependencyTargets, List.mem_flatMap]
  exact exists_stated_iff

end Stated

/-- Which references a conversion loses without reporting anything: those whose outermost container
is not the root and is the target of a dependency, while no dependency mentions them themselves. -/
theorem convert_lossless_lost_iff {behavior : Behavior} {interrupt : Interrupt}
    {document : Document} {converted : Converted} (keepsRefs : behavior.clearGeneratedRefs = false)
    (succeeds : convert behavior interrupt document = .ok converted)
    (lossless : converted.isLossless = true) :
    ∀ id ∈ registeredIds document.nodeList.nodes,
      (¬ converted.bom.Names id ↔
        ∃ top,
          Forest.Outermost (document.nodeList.edges.flatMap statedContainments) id top ∧
          resolvedRoot document ≠ some top ∧
          (∃ edge ∈ document.nodeList.edges, edge.kind = .dependsOn ∧ top ∈ edge.targets) ∧
          ∀ edge ∈ document.nodeList.edges, edge.kind = .dependsOn →
            id ≠ edge.source ∧ id ∉ edge.targets) := by
  intro id member
  have outlined := convert_outlined keepsRefs succeeds
  have orderly := outlineOf_orderly document
  obtain ⟨assembled, assembles, same⟩ := convert_eq_ok succeeds
  rw [keepsRefs, if_neg Bool.false_ne_true] at same
  subst same
  have stated := outlineOf_reportless assembles (List.isEmpty_iff.mp lossless)
  have statedForest : (outlineOf document).forest =
      document.nodeList.edges.flatMap statedContainments := by
    rw [stated]
    exact List.nil_append _
  have mentioned : (∃ record ∈ converted.bom.dependencies, id = record.ref ∨
        id ∈ record.dependsOn) ↔
      ∃ edge ∈ document.nodeList.edges, edge.kind = .dependsOn ∧
        (id = edge.source ∨ id ∈ edge.targets) := by
    rw [outlined.dependencies, stated]
    exact exists_stated_iff
  -- The tree at the end of the containers is not emitted if only a dependency placed its root.
  have absent : ∀ top, (outlineOf document).forest.Outermost id top →
      (id ∉ converted.bom.refs ↔ resolvedRoot document ≠ some top ∧
        ∃ edge ∈ document.nodeList.edges, edge.kind = .dependsOn ∧ top ∈ edge.targets) := by
    intro top outermost
    rw [outlined.mem_refs_iff member outermost, Outline.IsPlaced, ← mem_dependencyTargets_state_iff,
      outlineOf_root, ← stated]
    have free := outermost.top_not_nested
    tauto
  rw [Bom.Names, not_or, mentioned, ← statedForest]
  constructor
  · rintro ⟨lost, notMentioned⟩
    obtain ⟨top, outermost⟩ := orderly.exists_outermost id
    obtain ⟨notRoot, isTarget⟩ := (absent top outermost).mp lost
    refine ⟨top, outermost, notRoot, isTarget, fun edge edgeMember kind => ?_⟩
    exact not_or.mp fun mentions => notMentioned ⟨edge, edgeMember, kind, mentions⟩
  · rintro ⟨top, outermost, notRoot, isTarget, notMentioned⟩
    refine ⟨(absent top outermost).mpr ⟨notRoot, isTarget⟩, ?_⟩
    rintro ⟨edge, edgeMember, kind, mentions⟩
    exact not_or.mpr (notMentioned edge edgeMember kind) mentions

/-- A document in which a library takes in a part and is then no more than a dependency. -/
def orphaningDocument : Document where
  nodeList := {
    nodes := [{ id := "a", name := "a" }, { id := "b", name := "b" }, { id := "x", name := "x" }]
    edges := [⟨"a", .contains, ["b"]⟩, ⟨"x", .dependsOn, ["a"]⟩] }

theorem convert_orphaningDocument_lost :
    ({ clearGeneratedRefs := false } : Behavior).clearGeneratedRefs = false ∧
    ∃ converted,
      convert { clearGeneratedRefs := false } {} orphaningDocument = .ok converted ∧
      converted.isLossless = true ∧ converted.bom.Names "a" ∧ ¬ converted.bom.Names "b" := by
  have keepsRefs : ({ clearGeneratedRefs := false } : Behavior).clearGeneratedRefs = false := rfl
  refine ⟨keepsRefs, _, rfl, rfl, ?_⟩
  have lost := convert_lossless_lost_iff keepsRefs
    (rfl : convert { clearGeneratedRefs := false } {} orphaningDocument = .ok _) rfl
  constructor
  · by_contra unnamed
    obtain ⟨_, _, _, _, notMentioned⟩ := (lost "a" (by decide)).mp unnamed
    exact (notMentioned ⟨"x", .dependsOn, ["a"]⟩ (by decide) rfl).2 (by decide)
  · refine (lost "b" (by decide)).mpr ⟨"a", ?_, by decide, by decide, by decide⟩
    have inLibrary : ⟨"a", "b"⟩ ∈
        orphaningDocument.nodeList.edges.flatMap statedContainments := by decide
    exact .above inLibrary (.here (by decide))

/-- An empty report does not keep every reference. -/
theorem not_forall_lossless_names :
    ¬ ∀ (behavior : Behavior) (interrupt : Interrupt) (document : Document) (converted : Converted),
      behavior.clearGeneratedRefs = false →
      convert behavior interrupt document = .ok converted → converted.isLossless = true →
      ∀ id ∈ registeredIds document.nodeList.nodes, converted.bom.Names id := by
  intro keepsAll
  have named := keepsAll { clearGeneratedRefs := false } {} orphaningDocument _ rfl rfl rfl "b"
    (by decide)
  revert named
  decide

end Sbom.Conversion
