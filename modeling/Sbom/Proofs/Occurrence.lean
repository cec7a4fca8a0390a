import Sbom.CycloneDx.Defect
import Sbom.Proofs.Assembly

/-!
# Where references occur

A conversion emits the trees of the resolved root and of the references without a placement. The
tree in which a reference lies is that of the reference at the end of its containers, so whether it
occurs is decided there: a tree that is emitted holds it once, and a tree that only a dependency
asked for is not emitted.
-/

namespace Sbom.CycloneDx.Bom

variable {bom : Bom} {ref : String}

/-- The references of the components that are nested in another one. -/
def nestedRefs (bom : Bom) : List String :=
  (bom.trees.flatMap Tree.children).flatMap Component.refs

theorem refs_eq_flatMap (bom : Bom) : bom.refs = bom.trees.flatMap Component.refs := by
  rw [refs, Tree.valuesAll_eq_flatMap, List.map_flatMap]
  rfl

/-- The references of a document are those of its trees and the nested ones. -/
theorem refs_perm (bom : Bom) : bom.refs.Perm (bom.trees.map Component.ref ++ bom.nestedRefs) := by
  rw [refs_eq_flatMap, nestedRefs, List.flatMap_assoc]
  induction bom.trees with
  | nil => exact .nil
  | cons tree rest inductionHypothesis =>
      rw [List.flatMap_cons, List.flatMap_cons, List.map_cons, Component.refs_eq, List.cons_append,
        List.cons_append]
      refine .cons _ ?_
      -- The nested references of the first tree move behind the own references of the others.
      refine (inductionHypothesis.append_left _).trans ?_
      rw [← List.append_assoc, ← List.append_assoc]
      exact List.perm_append_comm.append_right _

/-- A reference that occurs once is nested exactly if it is not that of a tree. -/
theorem mem_nestedRefs_iff_of_count (once : bom.refs.count ref = 1) :
    ref ∈ bom.nestedRefs ↔ ref ∉ bom.trees.map Component.ref := by
  rw [bom.refs_perm.count_eq, List.count_append] at once
  rw [← List.count_pos_iff, ← List.count_eq_zero]
  omega

/-- A nested reference that occurs once is nested once. -/
theorem count_nestedRefs_of_count (once : bom.refs.count ref = 1) (nested : ref ∈ bom.nestedRefs) :
    bom.nestedRefs.count ref = 1 := by
  rw [bom.refs_perm.count_eq, List.count_append] at once
  rw [← List.count_pos_iff] at nested
  omega

end Sbom.CycloneDx.Bom

namespace Sbom.Conversion

open CycloneDx (Bom Component)
open Sbom.Graph (Document Edge)
open Settings (Behavior)

namespace Outline

/-- Whether a reference is placed as the target of a dependency and in no other way. -/
def IsOnlyDependency (outline : Outline) (id : String) : Prop :=
  id ∈ outline.dependencyTargets ∧ outline.root ≠ some id ∧ id ∉ outline.forest.contents

/-- Edges without a dependency among them place nothing as the target of one. -/
theorem dependencyTargets_ofEdges_eq_nil {root : Option String} {edges : List Edge}
    (noDependency : ∀ edge ∈ edges, edge.kind ≠ .dependsOn) :
    (ofEdges root edges).dependencyTargets = [] := by
  have noRecord : (ofEdges root edges).dependencies = [] := by
    rw [List.eq_nil_iff_forall_not_mem]
    intro dependency member
    rcases followAll_dependencies edges member with earlier | ⟨edge, edgeMember, kind, _⟩
    · exact absurd earlier List.not_mem_nil
    · exact noDependency edge edgeMember kind
  rw [dependencyTargets, noRecord, List.flatMap_nil]

end Outline

/-- The references whose trees are emitted: the resolved root and those without a placement. -/
def emittedIds (document : Document) : List String :=
  (resolvedRoot document).toList ++ unplacedIds document

section Emitted

variable {document : Document} {id : String}

/-- The resolved root is placed. -/
theorem resolvedRoot_isPlaced (isRoot : resolvedRoot document = some id) :
    (outlineOf document).IsPlaced id :=
  .inl ((outlineOf_root document).trans isRoot)

theorem mem_emittedIds_iff (member : id ∈ registeredIds document.nodeList.nodes) :
    id ∈ emittedIds document ↔
      resolvedRoot document = some id ∨ ¬ (outlineOf document).IsPlaced id := by
  simp [emittedIds, mem_unplacedIds_iff, member]

/-- The tree of a reference that is not nested is emitted unless only a dependency placed it. -/
theorem isEmitted_iff_of_not_nested (free : id ∉ (outlineOf document).forest.contents) :
    resolvedRoot document = some id ∨ ¬ (outlineOf document).IsPlaced id ↔
      ¬ (outlineOf document).IsOnlyDependency id := by
  rw [Outline.IsPlaced, Outline.IsOnlyDependency, outlineOf_root]
  tauto

theorem nodup_emittedIds (document : Document) : (emittedIds document).Nodup := by
  have unplacedDistinct : (unplacedIds document).Nodup :=
    List.Nodup.filter _ (nodup_registeredIds _)
  rw [emittedIds]
  cases isRoot : resolvedRoot document with
  | none => exact unplacedDistinct
  | some root =>
      refine List.nodup_cons.mpr ⟨fun unplaced => ?_, unplacedDistinct⟩
      exact (mem_unplacedIds_iff.mp unplaced).2 (resolvedRoot_isPlaced isRoot)

/-- No emitted tree is nested in another one. -/
theorem emittedIds_subset_tops (document : Document) :
    emittedIds document ⊆
      Forest.tops (registeredIds document.nodeList.nodes) (outlineOf document).forest := by
  intro id emitted
  rw [Forest.mem_tops_iff]
  rcases List.mem_append.mp emitted with isRoot | unplaced
  · rw [Option.mem_toList] at isRoot
    exact ⟨resolvedRoot_mem isRoot, (outlineOf_orderly document).root_not_nested isRoot⟩
  · obtain ⟨member, notPlaced⟩ := mem_unplacedIds_iff.mp unplaced
    exact ⟨member, fun nested => notPlaced (.inr (.inl nested))⟩

end Emitted

namespace Outlined

variable {document : Document} {bom : Bom} {id top : String}

/-- The references of the root tree are those of the tree of the resolved root. A root that only the
name of the document asked for has an empty one. -/
theorem rootRefs (outlined : Outlined document bom) :
    (bom.metadata.component.toList.flatMap Component.refs =
      (resolvedRoot document).toList.flatMap fun id => (treeOf document id).refs) ∨
    (resolvedRoot document = none ∧
      bom.metadata.component.toList.flatMap Component.refs = [""]) := by
  rw [outlined.root]
  obtain kept | ⟨component, isRoot, renamed⟩ | ⟨noRoot, bare⟩ :=
    applyName_cases ((resolvedRoot document).map (treeOf document)) document.metadata.name
  · left
    rw [kept]
    cases resolvedRoot document <;> rfl
  · left
    obtain ⟨root, isResolved, rfl⟩ := Option.map_eq_some_iff.mp isRoot
    rw [renamed, isResolved]
    simp [Component.refs_rename]
  · right
    exact ⟨Option.map_eq_none_iff.mp noRoot, by rw [bare]; rfl⟩

/-- The references of a bill of materials are those of the emitted trees, up to empty ones. -/
theorem refs (outlined : Outlined document bom) :
    ∃ unnamed : List String, (∀ ref ∈ unnamed, ref = "") ∧
      bom.refs = unnamed ++ (emittedIds document).flatMap fun id => (treeOf document id).refs := by
  rw [Bom.refs_eq_flatMap, Bom.trees, List.flatMap_append, outlined.components, emittedIds,
    List.flatMap_append, List.flatMap_map]
  rcases outlined.rootRefs with same | ⟨noRoot, bare⟩
  · exact ⟨[], by simp, by rw [same]; rfl⟩
  · exact ⟨[""], by simp, by rw [bare, noRoot]; rfl⟩

/-- The references of the top-level trees. -/
theorem topLevelRefs (outlined : Outlined document bom) :
    bom.components.map Component.ref = unplacedIds document := by
  rw [outlined.components, List.map_map]
  have same : ∀ id ∈ unplacedIds document, (Component.ref ∘ treeOf document) id = id :=
    fun id unplaced => treeOf_ref (mem_unplacedIds_iff.mp unplaced).1
  exact (List.map_congr_left same).trans (List.map_id' _)

/-- A registered reference is that of the root tree exactly if it is the resolved root. -/
theorem rootRef_eq_some_iff (outlined : Outlined document bom)
    (member : id ∈ registeredIds document.nodeList.nodes) :
    bom.metadata.component.map Component.ref = some id ↔ resolvedRoot document = some id := by
  rw [outlined.root]
  obtain kept | ⟨component, isRoot, renamed⟩ | ⟨noRoot, bare⟩ :=
    applyName_cases ((resolvedRoot document).map (treeOf document)) document.metadata.name
  · rw [kept]
    cases isResolved : resolvedRoot document with
    | none => simp
    | some root => simp [treeOf_ref (resolvedRoot_mem isResolved)]
  · obtain ⟨root, isResolved, rfl⟩ := Option.map_eq_some_iff.mp isRoot
    have sameRef : ((treeOf document root).rename document.metadata.name).ref = root :=
      treeOf_ref (resolvedRoot_mem isResolved)
    rw [renamed, isResolved, Option.map_some, sameRef]
  · have emptyRef : (Component.bare "" document.metadata.name).ref = "" := rfl
    rw [bare, Option.map_eq_none_iff.mp noRoot, Option.map_some, emptyRef]
    simp [Ne.symm (mem_registeredIds_iff.mp member).1]

/-- A registered reference occurs once if the tree at the end of its containers is emitted, and not
at all otherwise. -/
theorem count_refs (outlined : Outlined document bom)
    (member : id ∈ registeredIds document.nodeList.nodes)
    (outermost : (outlineOf document).forest.Outermost id top) :
    bom.refs.count id = if top ∈ emittedIds document then 1 else 0 := by
  obtain ⟨unnamed, areEmpty, refs⟩ := outlined.refs
  have noneUnnamed : unnamed.count id = 0 := by
    rw [List.count_eq_zero]
    exact fun isUnnamed => (mem_registeredIds_iff.mp member).1 (areEmpty id isUnnamed)
  rw [refs, List.count_append, noneUnnamed, Nat.zero_add]
  exact (outlineOf_orderly document).count_refs (nodup_registeredIds _) outlined.within
    (recordOf_named _) (nodup_emittedIds document) (emittedIds_subset_tops document) member outermost

/-- A registered reference occurs exactly if the tree at the end of its containers is emitted. -/
theorem mem_refs_iff (outlined : Outlined document bom)
    (member : id ∈ registeredIds document.nodeList.nodes)
    (outermost : (outlineOf document).forest.Outermost id top) :
    id ∈ bom.refs ↔ resolvedRoot document = some top ∨ ¬ (outlineOf document).IsPlaced top := by
  rw [← List.count_pos_iff, outlined.count_refs member outermost,
    ← mem_emittedIds_iff (outermost.top_mem outlined.within member)]
  split <;> simp [*]

/-- The references of the emitted trees are distinct and registered. -/
theorem nodup_emittedRefs (outlined : Outlined document bom) :
    ((emittedIds document).flatMap fun id => (treeOf document id).refs).Nodup ∧
      ((emittedIds document).flatMap fun id => (treeOf document id).refs) ⊆
        registeredIds document.nodeList.nodes :=
  (outlineOf_orderly document).nodup_refs (nodup_registeredIds _) outlined.within
    (recordOf_named _) (nodup_emittedIds document) (emittedIds_subset_tops document)

/-- Every reference that is not empty is registered. -/
theorem ref_mem (outlined : Outlined document bom) {ref : String} (occurs : ref ∈ bom.refs)
    (notEmpty : ref ≠ "") : ref ∈ registeredIds document.nodeList.nodes := by
  obtain ⟨unnamed, areEmpty, refs⟩ := outlined.refs
  rw [refs] at occurs
  rcases List.mem_append.mp occurs with isUnnamed | emitted
  · exact absurd (areEmpty ref isUnnamed) notEmpty
  · exact outlined.nodup_emittedRefs.2 emitted

/-- A registered reference is at the top level exactly if it is not placed. -/
theorem mem_topLevel_iff (outlined : Outlined document bom)
    (member : id ∈ registeredIds document.nodeList.nodes) :
    id ∈ bom.components.map Component.ref ↔ ¬ (outlineOf document).IsPlaced id := by
  rw [outlined.topLevelRefs, mem_unplacedIds_iff]
  exact and_iff_right member

/-- Where a reference occurs that occurs once. -/
theorem place_of_count (outlined : Outlined document bom)
    (member : id ∈ registeredIds document.nodeList.nodes) (once : bom.refs.count id = 1) :
    (id ∈ bom.components.map Component.ref ↔ ¬ (outlineOf document).IsPlaced id) ∧
    (bom.metadata.component.map Component.ref = some id ↔ resolvedRoot document = some id) ∧
    (id ∈ bom.nestedRefs ↔
      (outlineOf document).IsPlaced id ∧ resolvedRoot document ≠ some id) := by
  refine ⟨outlined.mem_topLevel_iff member, outlined.rootRef_eq_some_iff member, ?_⟩
  rw [Bom.mem_nestedRefs_iff_of_count once, Bom.trees, List.map_append, List.mem_append,
    outlined.mem_topLevel_iff member, Ne, ← outlined.rootRef_eq_some_iff member]
  cases bom.metadata.component <;> simp [and_comm, eq_comm]

end Outlined

/-- Where every registered reference occurs. The containers of a reference lead to one end. If that
is the resolved root or has no placement, the reference occurs once: at the top level if it has no
placement itself, as the root if it is the resolved root, and nested otherwise. If the end is placed
only as the target of a dependency, the reference does not occur. No other reference occurs. -/
theorem convert_occurrences {behavior : Behavior} {interrupt : Interrupt} {document : Document}
    {converted : Converted} (keepsRefs : behavior.clearGeneratedRefs = false)
    (succeeds : convert behavior interrupt document = .ok converted) :
    (∀ id ∈ registeredIds document.nodeList.nodes, ∃ top,
      (∀ other, (outlineOf document).forest.Outermost id other ↔ other = top) ∧
      (resolvedRoot document = some top ∨ ¬ (outlineOf document).IsPlaced top →
        converted.bom.refs.count id = 1 ∧
        (id ∈ converted.bom.components.map Component.ref ↔ ¬ (outlineOf document).IsPlaced id) ∧
        (converted.bom.metadata.component.map Component.ref = some id ↔
          resolvedRoot document = some id) ∧
        (id ∈ converted.bom.nestedRefs ↔
          (outlineOf document).IsPlaced id ∧ resolvedRoot document ≠ some id)) ∧
      ((outlineOf document).IsOnlyDependency top → converted.bom.refs.count id = 0)) ∧
    (∀ ref ∈ converted.bom.refs, ref ≠ "" → ref ∈ registeredIds document.nodeList.nodes) ∧
    ((∀ edge ∈ document.nodeList.edges, edge.kind ≠ .dependsOn) →
      ∀ id ∈ registeredIds document.nodeList.nodes, converted.bom.refs.count id = 1) := by
  have outlined := convert_outlined keepsRefs succeeds
  have orderly := outlineOf_orderly document
  refine ⟨fun id member => ?_, fun ref => outlined.ref_mem, fun noDependency id member => ?_⟩
  · obtain ⟨top, outermost⟩ := orderly.exists_outermost id
    have topMember := outermost.top_mem outlined.within member
    refine ⟨top, fun other => ?_, fun kept => ?_, fun onlyDependency => ?_⟩
    · exact ⟨orderly.outermost_unique outermost, fun same => same ▸ outermost⟩
    · have once : converted.bom.refs.count id = 1 := by
        rw [outlined.count_refs member outermost, if_pos ((mem_emittedIds_iff topMember).mpr kept)]
      exact ⟨once, outlined.place_of_count member once⟩
    · obtain ⟨isTarget, notRoot, _⟩ := onlyDependency
      rw [outlined.count_refs member outermost, if_neg]
      rw [mem_emittedIds_iff topMember, ← outlineOf_root]
      exact fun kept => kept.elim notRoot (fun notPlaced => notPlaced (.inr (.inr isTarget)))
  · obtain ⟨top, outermost⟩ := orderly.exists_outermost id
    have topMember := outermost.top_mem outlined.within member
    rw [outlined.count_refs member outermost, if_pos]
    rw [mem_emittedIds_iff topMember, or_iff_not_imp_left, ← outlineOf_root]
    rintro notRoot (isRoot | nested | isTarget)
    · exact notRoot isRoot
    · exact outermost.top_not_nested nested
    · rw [outlineOf, Outline.dependencyTargets_ofEdges_eq_nil noDependency] at isTarget
      exact absurd isTarget List.not_mem_nil

theorem convert_layeredDocument_occurrences :
    ({ clearGeneratedRefs := false } : Behavior).clearGeneratedRefs = false ∧
    ∃ converted,
      convert { clearGeneratedRefs := false } {} layeredDocument = .ok converted ∧
      converted.bom.refs.count "part" = 1 ∧ "part" ∈ converted.bom.nestedRefs ∧
      (outlineOf layeredDocument).IsOnlyDependency "tool" ∧
      converted.bom.refs.count "tool" = 0 := by
  have keepsRefs : ({ clearGeneratedRefs := false } : Behavior).clearGeneratedRefs = false := rfl
  refine ⟨keepsRefs, _, rfl, ?_⟩
  obtain ⟨occurs, _⟩ := convert_occurrences keepsRefs
    (rfl : convert { clearGeneratedRefs := false } {} layeredDocument = .ok _)
  obtain ⟨partTop, partEnd, kept, _⟩ := occurs "part" (by decide)
  obtain ⟨toolTop, toolEnd, _, dropped⟩ := occurs "tool" (by decide)
  have inLib : ⟨"lib", "part"⟩ ∈ (outlineOf layeredDocument).forest := by decide
  have inApp : ⟨"app", "lib"⟩ ∈ (outlineOf layeredDocument).forest := by decide
  have partIn : (outlineOf layeredDocument).forest.Outermost "part" "app" :=
    .above inLib (.above inApp (.here (by decide)))
  have toolIn : (outlineOf layeredDocument).forest.Outermost "tool" "tool" := .here (by decide)
  have partIsKept := kept (.inl (by rw [← (partEnd "app").mp partIn]; rfl))
  have toolOnly : (outlineOf layeredDocument).IsOnlyDependency "tool" := by
    refine ⟨?_, ?_, ?_⟩ <;> decide
  obtain ⟨once, _, _, nested⟩ := partIsKept
  refine ⟨once, nested.mpr ⟨by decide, by decide⟩, toolOnly, dropped ?_⟩
  rw [← (toolEnd "tool").mp toolIn]
  exact toolOnly

end Sbom.Conversion
