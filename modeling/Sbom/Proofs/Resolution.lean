import Sbom.Proofs.Outline
import Sbom.Proofs.Registry
import Sbom.Proofs.Steps

/-!
# Edges resolved in step with an outline

The resolution of edges copies components while it runs; the outline of the same edges keeps only
references. `Represents` ties the two together between any two edges: the registry holds for every
reference the tree that the outline's forest unfolds to. A copy taken when a child is attached is
therefore the tree of that child, then and in every later state, because an orderly forest adds
nothing below a nested reference.

`Represents.edgeStep` follows one edge, `Represents.resolveEdgesFrom` a resolution that succeeds.
-/

namespace Sbom.Conversion

open CycloneDx (Component Dependency)
open Sbom.Graph (Edge)

/-- The placement that an outline gives a reference. -/
def Outline.placement? (outline : Outline) (id : String) : Option Placement :=
  if outline.root = some id then some .root
  else if id ∈ outline.forest.contents then some .nested
  else if id ∈ outline.dependencyTargets then some .dependencyTarget
  else none

namespace Outline

variable {outline : Outline} {id : String}

theorem placement?_isSome_iff : (outline.placement? id).isSome = true ↔ outline.IsPlaced id := by
  unfold placement? IsPlaced
  split_ifs <;> simp [*]

/-- The root and the nested references are the ones that are part of the tree. -/
theorem placement?_isMaterialized_iff :
    (outline.placement? id).any Placement.isMaterialized = true ↔
      outline.root = some id ∨ id ∈ outline.forest.contents := by
  unfold placement?
  split_ifs <;> simp [*, Placement.isMaterialized]

/-- Nesting a reference changes its own placement only. -/
theorem placement?_append {source target : String} (notRoot : outline.root ≠ some target) :
    Outline.placement? { outline with forest := outline.forest ++ [⟨source, target⟩] } id =
      if id = target then some .nested else outline.placement? id := by
  simp only [placement?, dependencyTargets, Forest.contents_append, List.mem_append,
    List.mem_singleton]
  by_cases same : id = target
  · subst same
    simp [notRoot]
  · simp [same]

/-- Recording a dependency places those of its targets that have no placement yet. -/
theorem placement?_record {dependency : Dependency} :
    Outline.placement? { outline with dependencies := outline.dependencies ++ [dependency] } id =
      if id ∈ dependency.dependsOn ∧ outline.placement? id = none then some .dependencyTarget
      else outline.placement? id := by
  simp only [placement?, dependencyTargets, List.flatMap_append, List.mem_append,
    List.flatMap_singleton]
  split_ifs <;> simp_all

end Outline

/-- A registry that holds, for the given references, what an outline says about them. -/
structure Represents (ids : List String) (record : String → Component) (outline : Outline)
    (registry : Registry) : Prop where
  orderly : outline.forest.Orderly outline.root
  within : Forest.Within ids outline.forest
  dependenciesWithin : ∀ dependency ∈ outline.dependencies,
    dependency.ref ∈ ids ∧ dependency.dependsOn ⊆ ids
  rootId : registry.rootId = outline.root
  placements : ∀ id, registry.placement? id = outline.placement? id
  records : registry.records = ids.map (outline.forest.tree record)

namespace Represents

variable {ids : List String} {record : String → Component} {outline : Outline}
  {registry : Registry} {id source target : String}

/-- The record of a reference is its tree. -/
theorem record? (represents : Represents ids record outline registry)
    (named : Forest.Named ids record) (member : id ∈ ids) :
    registry.record? id = some (outline.forest.tree record id) :=
  Registry.record?_of_records represents.records
    (fun id member => (Forest.tree_ref _ _ _).trans (named id member)) member

theorem contains_iff (represents : Represents ids record outline registry)
    (named : Forest.Named ids record) : registry.contains id = true ↔ id ∈ ids :=
  Registry.contains_iff_of_records represents.records
    fun id member => (Forest.tree_ref _ _ _).trans (named id member)

/-- The references of the records are the given ones, in their order. -/
theorem refs (represents : Represents ids record outline registry)
    (named : Forest.Named ids record) : registry.records.map Component.ref = ids := by
  have sameRef : ∀ id ∈ ids, (outline.forest.tree record id).ref = id := fun id member =>
    (Forest.tree_ref _ _ _).trans (named id member)
  rw [represents.records, List.map_map]
  exact (List.map_congr_left sameRef).trans (List.map_id' ids)

theorem isPlaced_iff (represents : Represents ids record outline registry) :
    registry.isPlaced id = true ↔ outline.IsPlaced id := by
  rw [Registry.isPlaced, represents.placements, Outline.placement?_isSome_iff]

theorem isMaterialized_iff (represents : Represents ids record outline registry) :
    registry.isMaterialized id = true ↔
      outline.root = some id ∨ id ∈ outline.forest.contents := by
  rw [Registry.isMaterialized, represents.placements, Outline.placement?_isMaterialized_iff]

theorem isSkipped_iff (represents : Represents ids record outline registry) (edge : Edge) :
    isSkipped edge registry = true ↔ outline.Skips edge := by
  rw [isSkipped, Bool.and_eq_true, represents.isPlaced_iff, Registry.isRoot, represents.rootId]
  simp [Outline.Skips]

/-- A component that is looked up is the tree of a registered reference. -/
theorem component_ok (represents : Represents ids record outline registry)
    (named : Forest.Named ids record) {component : Component}
    (found : registry.component id = .ok component) :
    id ∈ ids ∧ component = outline.forest.tree record id := by
  unfold Registry.component at found
  split at found
  case h_1 recordEq =>
    have member : id ∈ ids := by
      rw [← represents.contains_iff named, Registry.contains_iff]
      have := List.find?_some recordEq
      exact List.mem_map.mpr ⟨_, List.mem_of_find?_eq_some recordEq, by simpa using this⟩
    rw [represents.record? named member] at recordEq
    cases found
    exact ⟨member, (Option.some.inj recordEq).symm⟩
  case h_2 => cases found

/-- Nesting a copy of a component follows nesting its reference. -/
theorem nest (represents : Represents ids record outline registry)
    (named : Forest.Named ids record) (sourceMember : source ∈ ids)
    (outer : source ∉ outline.forest.contents) (targetMember : target ∈ ids)
    (accepts : outline.Accepts source target) :
    Represents ids record (outline.nest source target)
      ((registry.place target .nested).1.addChild source (outline.forest.tree record target)) := by
  obtain ⟨proper, notRoot, fresh⟩ := accepts
  rw [Outline.nest_of_accepts ⟨proper, notRoot, fresh⟩]
  refine {
    orderly := represents.orderly.append outer fresh proper notRoot
    within := Forest.within_append_iff.mpr ⟨represents.within, sourceMember, targetMember⟩
    dependenciesWithin := represents.dependenciesWithin
    rootId := by simp [represents.rootId]
    placements := fun other => ?_
    records := ?_ }
  · have replaceable : Registry.mayReplace (outline.placement? target) .nested = true := by
      rw [Outline.placement?, if_neg notRoot, if_neg fresh]
      split <;> rfl
    rw [Registry.addChild_placement?, Registry.placement?_place, represents.placements,
      represents.placements, Outline.placement?_append notRoot]
    simp [replaceable]
  · rw [Registry.addChild, Registry.place_records, represents.records, List.map_map]
    apply List.map_congr_left
    intro other otherMember
    rw [represents.orderly.tree_append outer fresh proper notRoot, Function.comp_apply,
      Forest.tree_ref, named other otherMember]
    split
    case isTrue same => rw [same]
    case isFalse => rfl

/-- Attaching one more target follows nesting its reference, and reports it exactly if the outline
does not accept it. -/
theorem attachTarget (represents : Represents ids record outline registry)
    (named : Forest.Named ids record) (sourceMember : source ∈ ids)
    (outer : source ∉ outline.forest.contents) {rest : List String}
    (succeeds : (attachTargets source (target :: rest) registry).result = .ok ()) :
    ∃ next, Represents ids record (outline.nest source target) next ∧
      (attachTargets source rest next).result = .ok () ∧
      (attachTargets source (target :: rest) registry).registry =
        (attachTargets source rest next).registry ∧
      (attachTargets source (target :: rest) registry).report =
        (if outline.Accepts source target then [] else [alreadyPlaced source target]) ++
          (attachTargets source rest next).report := by
  obtain ⟨child, found, ⟨refused, later, isReported⟩ | ⟨taken, later, isNested⟩⟩ :=
    attachTargets_cons_eq_ok succeeds
  · have notAccepted : ¬ outline.Accepts source target := by
      rw [represents.isMaterialized_iff] at refused
      rintro ⟨proper, notRoot, fresh⟩
      exact refused.elim proper fun placed => placed.elim notRoot fresh
    rw [Outline.nest_of_not_accepts notAccepted, isReported, if_neg notAccepted]
    exact ⟨registry, represents, later, rfl, rfl⟩
  · obtain ⟨targetMember, rfl⟩ := represents.component_ok named found
    have accepts : outline.Accepts source target := by
      rw [represents.isMaterialized_iff, not_or, not_or] at taken
      exact taken
    rw [isNested, if_pos accepts]
    exact ⟨_, represents.nest named sourceMember outer targetMember accepts, later, rfl, rfl⟩

/-- Attaching the targets of an edge follows nesting them, one after the other. -/
theorem attachTargets (represents : Represents ids record outline registry)
    (named : Forest.Named ids record) (sourceMember : source ∈ ids)
    (outer : source ∉ outline.forest.contents) (targets : List String)
    (succeeds : (attachTargets source targets registry).result = .ok ()) :
    Represents ids record (targets.foldl (Outline.nest source) outline)
      (attachTargets source targets registry).registry := by
  induction targets generalizing outline registry with
  | nil => exact represents
  | cons target rest inductionHypothesis =>
      obtain ⟨next, representsNext, succeedsNext, sameRegistry, _⟩ :=
        represents.attachTarget named sourceMember outer succeeds
      have outerNext := (Outline.nest_orderly target represents.orderly outer).2
      rw [List.foldl_cons, sameRegistry]
      exact inductionHypothesis representsNext outerNext succeedsNext

end Represents

/-- Placing dependency targets leaves the records and the root. -/
theorem placeTargets_frame (targets : List String) (registry : Registry) :
    (placeTargets targets registry).records = registry.records ∧
      (placeTargets targets registry).rootId = registry.rootId := by
  induction targets generalizing registry with
  | nil => exact ⟨rfl, rfl⟩
  | cons target rest inductionHypothesis =>
      obtain ⟨records, rootId⟩ := inductionHypothesis (registry.place target .dependencyTarget).1
      exact ⟨records.trans Registry.place_records, rootId.trans Registry.place_rootId⟩

/-- Placing dependency targets places those that have no placement yet. -/
theorem placement?_placeTargets (targets : List String) (registry : Registry) (id : String) :
    (placeTargets targets registry).placement? id =
      if id ∈ targets ∧ registry.placement? id = none then some .dependencyTarget
      else registry.placement? id := by
  induction targets generalizing registry with
  | nil => simp [placeTargets]
  | cons target rest inductionHypothesis =>
      have step : placeTargets (target :: rest) registry =
          placeTargets rest (registry.place target .dependencyTarget).1 := rfl
      have replaceable : Registry.mayReplace (registry.placement? target) .dependencyTarget = true ↔
          registry.placement? target = none := by
        cases registry.placement? target with
        | none => simp [Registry.mayReplace]
        | some placement => cases placement <;> simp [Registry.mayReplace, Placement.isMaterialized]
      rw [step, inductionHypothesis, Registry.placement?_place]
      simp only [replaceable]
      by_cases same : id = target
      · subst same
        by_cases unplaced : registry.placement? id = none <;> simp [unplaced]
      · simp [same]

namespace Represents

variable {ids : List String} {record : String → Component} {outline : Outline}
  {registry : Registry} {edge : Edge}

/-- Placing the distinct targets of a dependency edge follows its record. -/
theorem placeTargets (represents : Represents ids record outline registry)
    (named : Forest.Named ids record) (sourceMember : edge.source ∈ ids) {report : Report}
    {targets : List String}
    (distinct : distinctTargets registry edge.source edge.targets [] = (report, .ok targets)) :
    targets = edge.targets.eraseDups ∧
      Represents ids record
        { outline with
          dependencies := outline.dependencies ++ [⟨edge.source, edge.targets.eraseDups⟩] }
        (placeTargets targets registry) := by
  obtain ⟨firsts, known, _⟩ := distinctTargets_eq_ok edge.targets [] distinct
  have firstTargets : targets = edge.targets.eraseDups := by simpa using firsts
  subst firstTargets
  obtain ⟨records, rootId⟩ := placeTargets_frame edge.targets.eraseDups registry
  refine ⟨rfl, {
    orderly := represents.orderly
    within := represents.within
    dependenciesWithin := fun dependency member => ?_
    rootId := rootId.trans represents.rootId
    placements := fun id => ?_
    records := records.trans represents.records }⟩
  · rcases List.mem_append.mp member with earlier | last
    · exact represents.dependenciesWithin dependency earlier
    · rw [List.mem_singleton.mp last]
      exact ⟨sourceMember, fun target isTarget =>
        (represents.contains_iff named).mp (known target isTarget)⟩
  · rw [placement?_placeTargets, represents.placements, Outline.placement?_record]

/-- One edge that does not fail follows the outline, and returns the dependency record that the
outline gains. -/
theorem edgeStep (represents : Represents ids record outline registry)
    (named : Forest.Named ids record) {interrupt : Interrupt} {index : Nat}
    {found : Option Dependency}
    (succeeds : (edgeStep interrupt index edge registry).result = .ok found) :
    Represents ids record (outline.follow edge)
        (edgeStep interrupt index edge registry).registry ∧
      (outline.follow edge).dependencies = outline.dependencies ++ found.toList := by
  obtain ⟨skipped, step⟩ | ⟨notSkipped, known, resolved⟩ := edgeStep_eq_ok succeeds
  · rw [step] at succeeds ⊢
    cases succeeds
    rw [Outline.follow_of_skips ((represents.isSkipped_iff edge).mp skipped)]
    exact ⟨represents, by simp⟩
  · have sourceMember := (represents.contains_iff named).mp known
    have taken : ¬ outline.Skips edge := by
      rw [← represents.isSkipped_iff, notSkipped]
      exact Bool.false_ne_true
    obtain ⟨kind, attached, step⟩ | ⟨kind, report, targets, distinct, step⟩ |
      ⟨notContains, notDependsOn, step⟩ := resolved <;> rw [step] at succeeds ⊢ <;> cases succeeds
    · have outer := Outline.source_not_nested represents.orderly taken
      have kept := (Outline.nestAll_frame outline edge.source edge.targets).2
      rw [Outline.follow_of_contains taken kind]
      exact ⟨represents.attachTargets named sourceMember outer edge.targets attached, by
        simpa using kept⟩
    · obtain ⟨rfl, next⟩ := represents.placeTargets named sourceMember distinct
      rw [Outline.follow_of_dependsOn taken kind]
      exact ⟨next, rfl⟩
    · rw [Outline.follow_of_other notContains notDependsOn]
      exact ⟨represents, by simp⟩

/-- A resolution that does not fail follows the outline of its edges, and returns the dependency
records that the outline gains. -/
theorem resolveEdgesFrom (represents : Represents ids record outline registry)
    (named : Forest.Named ids record) {interrupt : Interrupt} {index : Nat} (edges : List Edge)
    {dependencies : List Dependency}
    (succeeds : (resolveEdgesFrom interrupt index edges registry).result = .ok dependencies) :
    Represents ids record (edges.foldl Outline.follow outline)
        (resolveEdgesFrom interrupt index edges registry).registry ∧
      (edges.foldl Outline.follow outline).dependencies =
        outline.dependencies ++ dependencies := by
  induction edges generalizing index outline registry dependencies with
  | nil =>
      cases succeeds
      exact ⟨represents, by simp⟩
  | cons edge rest inductionHypothesis =>
      obtain ⟨found, others, first, later, inOrder, sameRegistry, _⟩ :=
        resolveEdgesFrom_cons_eq_ok succeeds
      obtain ⟨representsNext, foundFirst⟩ := represents.edgeStep named first
      obtain ⟨representsLast, foundLater⟩ := inductionHypothesis representsNext later
      rw [sameRegistry]
      refine ⟨representsLast, ?_⟩
      rw [List.foldl_cons, foundLater, foundFirst, inOrder, List.append_assoc]

end Represents

end Sbom.Conversion
