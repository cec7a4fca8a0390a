import Mathlib.Data.List.Nodup
import Sbom.Conversion.Convert
import Sbom.Proofs.Resolution

/-!
# What an edge sees and what it changes

An edge looks up the references that it names and no others, and these are the only ones whose
records or placements it changes. `Registry.AgreesOn` says that two registries cannot be told apart
by looking up some references. Registries that agree on what an edge names lead to the same report
and the same result, also when that is a failure, and go on agreeing (`edgeStep_agreesOn`); what is
not named stays as it was (`edgeStep_changesOnly`).

Resolving the root and finding it again in the end are lookups too. The order of the records matters
to the harvest alone.
-/

namespace Sbom

/-- Among items with distinct keys, searching for a key finds the item that has it. -/
theorem find?_key_eq_some_iff {α κ : Type} [BEq κ] [LawfulBEq κ] {key : α → κ} {items : List α}
    (distinct : (items.map key).Nodup) {wanted : κ} {item : α} :
    items.find? (fun item => key item == wanted) = some item ↔
      item ∈ items ∧ key item = wanted := by
  constructor
  · intro found
    exact ⟨List.mem_of_find?_eq_some found, by simpa using List.find?_some found⟩
  · rintro ⟨member, rfl⟩
    have present : (items.find? fun other => key other == key item).isSome = true :=
      List.find?_isSome.mpr ⟨item, member, by simp⟩
    obtain ⟨first, isFirst⟩ := Option.isSome_iff_exists.mp present
    have sameKey : key first = key item := by simpa using List.find?_some isFirst
    rw [isFirst, List.inj_on_of_nodup_map distinct (List.mem_of_find?_eq_some isFirst) member
      sameKey]

/-- The references that an edge names: its source and its targets. -/
def Graph.Edge.endpoints (edge : Graph.Edge) : List String :=
  edge.source :: edge.targets

namespace Conversion

open CycloneDx (Component Dependency)
open Sbom.Graph (Edge)

/-- Registries with the same root in which looking up one of the given references gives the same
record and the same placement. -/
structure Registry.AgreesOn (ids : String → Prop) (left right : Registry) : Prop where
  record? : ∀ id, ids id → left.record? id = right.record? id
  placement? : ∀ id, ids id → left.placement? id = right.placement? id
  rootId : left.rootId = right.rootId

/-- A later registry in which only the given references may have other records or placements, and
in which the same references are registered in the same order. -/
structure Registry.ChangesOnly (ids : List String) (before after : Registry) : Prop where
  elsewhere : before.AgreesOn (· ∉ ids) after
  refs : after.records.map Component.ref = before.records.map Component.ref

/-- Steps with the same report and the same result, after which the registries agree. -/
structure Step.AgreesOn {α : Type} (ids : String → Prop) (left right : Step α) : Prop where
  registry : left.registry.AgreesOn ids right.registry
  report : left.report = right.report
  result : left.result = right.result

namespace Registry

variable {registry : Registry} {id target : String}

namespace AgreesOn

variable {ids : String → Prop} {left middle right : Registry}

theorem refl (registry : Registry) : registry.AgreesOn ids registry :=
  ⟨fun _ _ => rfl, fun _ _ => rfl, rfl⟩

theorem symm (agrees : left.AgreesOn ids right) : right.AgreesOn ids left where
  record? id member := (agrees.record? id member).symm
  placement? id member := (agrees.placement? id member).symm
  rootId := agrees.rootId.symm

theorem trans (first : left.AgreesOn ids middle) (second : middle.AgreesOn ids right) :
    left.AgreesOn ids right where
  record? id member := (first.record? id member).trans (second.record? id member)
  placement? id member := (first.placement? id member).trans (second.placement? id member)
  rootId := first.rootId.trans second.rootId

/-- Registries that agree on some references agree on fewer. -/
theorem mono (agrees : left.AgreesOn ids right) {fewer : String → Prop}
    (narrower : ∀ id, fewer id → ids id) : left.AgreesOn fewer right where
  record? id member := agrees.record? id (narrower id member)
  placement? id member := agrees.placement? id (narrower id member)
  rootId := agrees.rootId

/-- Registries agree on every reference if they agree on two sorts of references and on the rest. -/
theorem everywhere {others : String → Prop} (first : left.AgreesOn ids right)
    (second : left.AgreesOn others right)
    (rest : left.AgreesOn (fun id => ¬ ids id ∧ ¬ others id) right) :
    left.AgreesOn (fun _ => True) right where
  record? id _ := by
    by_cases isFirst : ids id
    · exact first.record? id isFirst
    · by_cases isSecond : others id
      · exact second.record? id isSecond
      · exact rest.record? id ⟨isFirst, isSecond⟩
  placement? id _ := by
    by_cases isFirst : ids id
    · exact first.placement? id isFirst
    · by_cases isSecond : others id
      · exact second.placement? id isSecond
      · exact rest.placement? id ⟨isFirst, isSecond⟩
  rootId := first.rootId

section Lookups

variable (agrees : left.AgreesOn ids right) (member : ids id)
include agrees member

theorem contains : left.contains id = right.contains id := by
  rw [contains_eq_isSome, contains_eq_isSome, agrees.record? id member]

theorem component : left.component id = right.component id := by
  rw [Registry.component, Registry.component, agrees.record? id member]

theorem isPlaced : left.isPlaced id = right.isPlaced id := by
  rw [Registry.isPlaced, Registry.isPlaced, agrees.placement? id member]

theorem isMaterialized : left.isMaterialized id = right.isMaterialized id := by
  rw [Registry.isMaterialized, Registry.isMaterialized, agrees.placement? id member]

end Lookups

theorem isRoot (agrees : left.AgreesOn ids right) : left.isRoot id = right.isRoot id := by
  rw [Registry.isRoot, Registry.isRoot, agrees.rootId]

/-- Placing a reference that both look up. -/
theorem place (agrees : left.AgreesOn ids right) (member : ids target) (placement : Placement) :
    (left.place target placement).1.AgreesOn ids (right.place target placement).1 where
  record? id isShared := by rw [record?_place, record?_place, agrees.record? id isShared]
  placement? id isShared := by
    rw [placement?_place, placement?_place, agrees.placement? id isShared,
      agrees.placement? target member]
  rootId := by rw [place_rootId, place_rootId, agrees.rootId]

/-- Adding the same child to the component of a reference that both look up. -/
theorem addChild (agrees : left.AgreesOn ids right) (member : ids target) (child : Component) :
    (left.addChild target child).AgreesOn ids (right.addChild target child) where
  record? id isShared := by
    rw [record?_addChild, record?_addChild, agrees.record? id isShared,
      agrees.record? target member]
  placement? := agrees.placement?
  rootId := agrees.rootId

/-- Making a reference the root that both look up. -/
theorem setRoot (agrees : left.AgreesOn ids right) (member : ids target) :
    (left.setRoot target).AgreesOn ids (right.setRoot target) where
  record? := (agrees.place member .root).record?
  placement? := (agrees.place member .root).placement?
  rootId := rfl

end AgreesOn

namespace ChangesOnly

variable {ids others : List String} {before middle after : Registry}

theorem refl (registry : Registry) : registry.ChangesOnly ids registry :=
  ⟨.refl registry, rfl⟩

theorem trans (first : before.ChangesOnly ids middle) (second : middle.ChangesOnly ids after) :
    before.ChangesOnly ids after :=
  ⟨first.elsewhere.trans second.elsewhere, second.refs.trans first.refs⟩

/-- What changes at some references at most changes at more of them at most. -/
theorem mono (changes : before.ChangesOnly ids after) (wider : ids ⊆ others) :
    before.ChangesOnly others after :=
  ⟨changes.elsewhere.mono fun _ outside inside => outside (wider inside), changes.refs⟩

/-- Nesting a component concerns the component and its container. -/
theorem nest {source : String} {child : Component} :
    registry.ChangesOnly [source, target]
      ((registry.place target .nested).1.addChild source child) where
  elsewhere := {
    record? := fun id outside => by
      rw [record?_addChild, if_neg fun same => outside (by simp [same]), record?_place]
    placement? := fun id outside => by
      rw [addChild_placement?, placement?_place, if_neg fun both => outside (by simp [both.1])]
    rootId := by rw [addChild_rootId, place_rootId] }
  refs := by rw [addChild_refs, place_records]

end ChangesOnly

/-- A registry with distinct references is determined by their order and their records. -/
theorem records_eq_filterMap (distinct : (registry.records.map Component.ref).Nodup) :
    registry.records = (registry.records.map Component.ref).filterMap registry.record? := by
  have found : ∀ component ∈ registry.records,
      registry.record? component.ref = some component := fun component member =>
    (find?_key_eq_some_iff distinct).mpr ⟨member, rfl⟩
  rw [List.filterMap_map]
  conv_lhs => rw [← List.filterMap_some (l := registry.records)]
  exact (List.filterMap_congr found).symm

end Registry

variable {registry left right : Registry} {ids : String → Prop} {source : String} {edge : Edge}

/-- Attaching targets sees the source and the targets only. -/
theorem attachTargets_agreesOn (agrees : left.AgreesOn ids right) (sourceShared : ids source)
    (targets : List String) (targetsShared : ∀ target ∈ targets, ids target) :
    (attachTargets source targets left).AgreesOn ids (attachTargets source targets right) := by
  induction targets generalizing left right with
  | nil => exact ⟨agrees, rfl, rfl⟩
  | cons target rest inductionHypothesis =>
      obtain ⟨targetShared, restShared⟩ := List.forall_mem_cons.mp targetsShared
      rw [attachTargets, attachTargets, agrees.component targetShared,
        agrees.isMaterialized targetShared]
      cases right.component target with
      | error failure => exact ⟨agrees, rfl, rfl⟩
      | ok child =>
          by_cases refused : target = source ∨ right.isMaterialized target = true
          · have later := inductionHypothesis agrees restShared
            simp only [if_pos refused]
            exact ⟨later.registry, by rw [later.report], later.result⟩
          · simp only [if_neg refused]
            exact inductionHypothesis
              ((agrees.place targetShared .nested).addChild sourceShared child) restShared

/-- The distinct targets of a dependency edge depend on which of its targets are registered. -/
theorem distinctTargets_congr (agrees : left.AgreesOn ids right) (targets seen : List String)
    (targetsShared : ∀ target ∈ targets, ids target) :
    distinctTargets left source targets seen = distinctTargets right source targets seen := by
  induction targets generalizing seen with
  | nil => rfl
  | cons target rest inductionHypothesis =>
      obtain ⟨targetShared, restShared⟩ := List.forall_mem_cons.mp targetsShared
      rw [distinctTargets, distinctTargets, agrees.contains targetShared,
        inductionHypothesis seen restShared, inductionHypothesis (target :: seen) restShared]

/-- Placing dependency targets sees these only. -/
theorem placeTargets_agreesOn (agrees : left.AgreesOn ids right) (targets : List String) :
    (placeTargets targets left).AgreesOn ids (placeTargets targets right) where
  record? id isShared := by
    rw [Registry.record?, (placeTargets_frame targets left).1, Registry.record?,
      (placeTargets_frame targets right).1]
    exact agrees.record? id isShared
  placement? id isShared := by
    rw [placement?_placeTargets, placement?_placeTargets, agrees.placement? id isShared]
  rootId := by
    rw [(placeTargets_frame targets left).2, (placeTargets_frame targets right).2, agrees.rootId]

/-- Recording a dependency sees the targets of the edge only. -/
theorem recordDependency_agreesOn (agrees : left.AgreesOn ids right)
    (targetsShared : ∀ target ∈ edge.targets, ids target) :
    (recordDependency edge left).AgreesOn ids (recordDependency edge right) := by
  rw [recordDependency, recordDependency, distinctTargets_congr agrees edge.targets [] targetsShared]
  split
  · exact ⟨placeTargets_agreesOn agrees _, rfl, rfl⟩
  · exact ⟨agrees, rfl, rfl⟩

/-- Resolving an edge sees what the edge names only. -/
theorem resolveEdge_agreesOn (agrees : left.AgreesOn ids right)
    (shared : ∀ id ∈ edge.endpoints, ids id) :
    (resolveEdge edge left).AgreesOn ids (resolveEdge edge right) := by
  obtain ⟨sourceShared, targetsShared⟩ := List.forall_mem_cons.mp shared
  rw [resolveEdge, resolveEdge, agrees.contains sourceShared]
  by_cases known : right.contains edge.source = true
  · rw [if_pos known, if_pos known]
    split
    · have attached := attachTargets_agreesOn agrees sourceShared edge.targets targetsShared
      exact ⟨attached.registry, attached.report,
        congrArg (Except.map fun _ => none) attached.result⟩
    · exact recordDependency_agreesOn agrees targetsShared
    · exact ⟨agrees, rfl, rfl⟩
  · rw [if_neg known, if_neg known]
    exact ⟨agrees, rfl, rfl⟩

/-- An edge sees what it names only. -/
theorem edgeStep_agreesOn (agrees : left.AgreesOn ids right) (interrupt : Interrupt) (index : Nat)
    (shared : ∀ id ∈ edge.endpoints, ids id) :
    (edgeStep interrupt index edge left).AgreesOn ids (edgeStep interrupt index edge right) := by
  have sameSkip : isSkipped edge left = isSkipped edge right := by
    rw [isSkipped, isSkipped, agrees.isPlaced (shared _ List.mem_cons_self), agrees.isRoot]
  unfold edgeStep
  cases interrupt.check "relationship resolution" with
  | error failure => exact ⟨agrees, rfl, rfl⟩
  | ok _ =>
      rw [sameSkip]
      by_cases skipped : isSkipped edge right = true
      · simp only [if_pos skipped]
        exact ⟨agrees, rfl, rfl⟩
      · simp only [if_neg skipped]
        have resolved := resolveEdge_agreesOn agrees shared
        exact ⟨resolved.registry, resolved.report, by rw [resolved.result]⟩

/-- Edges see what they name only. -/
theorem resolveEdgesFrom_agreesOn (agrees : left.AgreesOn ids right) (interrupt : Interrupt)
    (index : Nat) (edges : List Edge) (shared : ∀ edge ∈ edges, ∀ id ∈ edge.endpoints, ids id) :
    (resolveEdgesFrom interrupt index edges left).AgreesOn ids
      (resolveEdgesFrom interrupt index edges right) := by
  induction edges generalizing index left right with
  | nil => exact ⟨agrees, rfl, rfl⟩
  | cons edge rest inductionHypothesis =>
      obtain ⟨edgeShared, restShared⟩ := List.forall_mem_cons.mp shared
      have first := edgeStep_agreesOn agrees interrupt index edgeShared
      have later := inductionHypothesis first.registry (index + 1) restShared
      rw [resolveEdgesFrom, resolveEdgesFrom, first.result, first.report]
      cases (edgeStep interrupt index edge right).result with
      | error failure => exact ⟨first.registry, rfl, rfl⟩
      | ok found =>
          exact ⟨later.registry, congrArg (_ ++ ·) later.report,
            congrArg (Except.map (found.toList ++ ·)) later.result⟩

/-- The root is resolved by a lookup. -/
theorem resolveRoot_agreesOn (agrees : left.AgreesOn (fun _ => True) right)
    (rootElements : List String) :
    (resolveRoot left rootElements).1.AgreesOn (fun _ => True) (resolveRoot right rootElements).1 ∧
      (resolveRoot left rootElements).2 = (resolveRoot right rootElements).2 := by
  cases rootElements with
  | nil => exact ⟨agrees, rfl⟩
  | cons first extras =>
      simp only [resolveRoot, agrees.record? first trivial]
      cases right.record? first with
      | none => exact ⟨agrees, rfl⟩
      | some component => exact ⟨agrees.setRoot trivial, rfl⟩

/-- The root as the edges left it is found by a lookup. -/
theorem finalRoot_agreesOn (agrees : left.AgreesOn (fun _ => True) right)
    (resolved : Option Component) :
    (finalRoot left resolved).2 = (finalRoot right resolved).2 := by
  cases resolved with
  | none => rfl
  | some asResolved =>
      have sameTaken : left.takeRoot.2 = right.takeRoot.2 := by
        unfold Registry.takeRoot
        rw [agrees.rootId]
        cases right.rootId with
        | none => rfl
        | some id => exact agrees.record? id trivial
      simp only [finalRoot, sameTaken]

/-- Attaching targets changes the source and the targets only. -/
theorem attachTargets_changesOnly (targets : List String) :
    registry.ChangesOnly (source :: targets) (attachTargets source targets registry).registry := by
  induction targets generalizing registry with
  | nil => exact .refl registry
  | cons target rest inductionHypothesis =>
      have wider : source :: rest ⊆ source :: target :: rest := by
        simp only [List.cons_subset, List.mem_cons, true_or, true_and]
        exact fun id member => by simp [member]
      rw [attachTargets]
      split
      · exact .refl registry
      · split
        · exact inductionHypothesis.mono wider
        · exact (Registry.ChangesOnly.nest.mono (by simp)).trans (inductionHypothesis.mono wider)

/-- Placing dependency targets changes these only. -/
theorem placeTargets_changesOnly (targets : List String) :
    registry.ChangesOnly targets (placeTargets targets registry) := by
  obtain ⟨records, rootId⟩ := placeTargets_frame targets registry
  refine ⟨⟨fun id _ => ?_, fun id outside => ?_, rootId.symm⟩, by rw [records]⟩
  · rw [Registry.record?, Registry.record?, records]
  · rw [placement?_placeTargets, if_neg fun both => outside both.1]

/-- Resolving an edge changes what the edge names only. -/
theorem resolveEdge_changesOnly (edge : Edge) :
    registry.ChangesOnly edge.endpoints (resolveEdge edge registry).registry := by
  unfold resolveEdge
  split
  · split
    · exact attachTargets_changesOnly edge.targets
    · unfold recordDependency
      split
      case h_1 report targets distinct =>
        have named : targets ⊆ edge.endpoints := by
          obtain ⟨firsts, _⟩ := distinctTargets_eq_ok edge.targets [] distinct
          intro target member
          rw [firsts, List.mem_eraseDups] at member
          exact List.mem_cons_of_mem _ (List.mem_of_mem_filter member)
        exact (placeTargets_changesOnly targets).mono named
      case h_2 => exact .refl registry
    · exact .refl registry
  · exact .refl registry

/-- An edge changes what it names only, also when it fails. -/
theorem edgeStep_changesOnly (interrupt : Interrupt) (index : Nat) (edge : Edge)
    (registry : Registry) :
    registry.ChangesOnly edge.endpoints (edgeStep interrupt index edge registry).registry := by
  unfold edgeStep
  split
  · exact .refl registry
  · split
    · exact .refl registry
    · exact resolveEdge_changesOnly edge

/-- Edges leave the registered references and their order. -/
theorem resolveEdgesFrom_refs (interrupt : Interrupt) (index : Nat) (edges : List Edge)
    (registry : Registry) :
    (resolveEdgesFrom interrupt index edges registry).registry.records.map Component.ref =
      registry.records.map Component.ref := by
  induction edges generalizing index registry with
  | nil => rfl
  | cons edge rest inductionHypothesis =>
      have first := (edgeStep_changesOnly interrupt index edge registry).refs
      rw [resolveEdgesFrom]
      split
      · exact first
      · exact (inductionHypothesis (index + 1) _).trans first

end Conversion

end Sbom
