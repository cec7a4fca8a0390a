import Sbom.Proofs.Dangling
import Sbom.Proofs.Growth
import Sbom.Proofs.Locality

/-!
# What a failing resolution leaves

A resolution that fails at an edge leaves the registry as a resolution that succeeds would: that of
the edges before it and, if it is a containment, of this edge cut down to the targets before the
first unknown one. A dependency looks up all of its targets before it places any, so nothing of it is
done.

What may stop the resolution is looked at before every edge and may change in between. So the results
are about `resolveEdgesUnder`, which is `resolveEdgesFrom` where it does not change.
-/

namespace Sbom.Conversion

open CycloneDx (Component Dependency)
open Sbom.Graph (Edge)

/-- What is done of an edge that lacks a reference, as edges that lack none: the targets of a
containment before the first unknown one are dealt with, and nothing of any other edge. -/
def partDone (ids : List String) (edge : Edge) : List Edge :=
  if edge.source ∈ ids ∧ edge.kind = .contains then
    [{ edge with targets := edge.targets.takeWhile fun target => target ∈ ids }]
  else []

/-- Why a resolution fails at an edge, and what is done of the edge. -/
inductive Halts (ids : List String) (interrupt : Interrupt) (index : Nat) (edge : Edge)
    (registry : Registry) : Failure → List Edge → Prop where
  /-- The resolution is stopped from outside before the edge. -/
  | stopped {failure : Failure}
      (stops : interrupt.check "relationship resolution" = .error failure) :
      Halts ids interrupt index edge registry failure []
  /-- The edge is not skipped and lacks a reference. -/
  | dangling {id : String} (passes : interrupt.check "relationship resolution" = .ok ())
      (taken : isSkipped edge registry = false) (missing : missingRef? ids edge = some id) :
      Halts ids interrupt index edge registry (missingRefFailure ids index edge id)
        (partDone ids edge)

variable {interrupts : Nat → Interrupt} {interrupt : Interrupt} {index : Nat} {ids : List String}
  {registry : Registry} {source : String} {edge : Edge}

/-- What does not change may be looked at once. -/
theorem resolveEdgesUnder_const (interrupt : Interrupt) (index : Nat) (edges : List Edge)
    (registry : Registry) :
    resolveEdgesUnder (fun _ => interrupt) index edges registry =
      resolveEdgesFrom interrupt index edges registry := by
  induction edges generalizing index registry with
  | nil => rfl
  | cons edge rest inductionHypothesis =>
      rw [resolveEdgesUnder, resolveEdgesFrom]
      cases (edgeStep interrupt index edge registry).result with
      | error failure => rfl
      | ok found => simp only [inductionHypothesis]

/-- Targets behind others that are dealt with go on with the registry that these leave. -/
theorem attachTargets_append_registry (first second : List String)
    (succeeds : (attachTargets source first registry).result = .ok ()) :
    (attachTargets source (first ++ second) registry).registry =
      (attachTargets source second (attachTargets source first registry).registry).registry := by
  induction first generalizing registry with
  | nil => rfl
  | cons target rest inductionHypothesis =>
      obtain ⟨child, found, ⟨refused, later, isReported⟩ | ⟨taken, later, isNested⟩⟩ :=
        attachTargets_cons_eq_ok succeeds
      · rw [isReported, List.cons_append, attachTargets]
        simp only [found, if_pos refused]
        exact inductionHypothesis later
      · rw [isNested, List.cons_append, attachTargets]
        simp only [found, if_neg taken]
        exact inductionHypothesis later

/-- Registries with the same references know the same. -/
theorem Registry.Knows.of_refs {before after : Registry} (knows : before.Knows ids)
    (same : after.records.map Component.ref = before.records.map Component.ref) :
    after.Knows ids := by
  intro id
  rw [Registry.contains_iff, same, ← Registry.contains_iff]
  exact knows id

/-- Attaching targets of which one is unknown does what attaching those before it does. -/
theorem attachTargets_of_unknown (source : String) (knows : registry.Knows ids)
    {targets : List String} {id : String}
    (missing : (targets.find? fun target => target ∉ ids) = some id) :
    (attachTargets source (targets.takeWhile fun target => target ∈ ids) registry).result = .ok () ∧
      (attachTargets source (targets.takeWhile fun target => target ∈ ids) registry).registry =
        (attachTargets source targets registry).registry := by
  obtain ⟨unknown, known, rest, rfl, allKnown⟩ := List.find?_eq_some_iff_append.mp missing
  have unknown : id ∉ ids := by simpa using unknown
  have allKnown : ∀ target ∈ known, target ∈ ids := by simpa using allKnown
  have cut : ((known ++ id :: rest).takeWhile fun target => target ∈ ids) = known := by
    rw [List.takeWhile_append_of_pos (by simpa using allKnown),
      List.takeWhile_cons_of_neg (by simpa using unknown), List.append_nil]
  have complete : (known.find? fun target => target ∉ ids) = none := by
    simpa [List.find?_eq_none] using allKnown
  have succeeds : (attachTargets source known registry).result = .ok () := by
    rw [attachTargets_result knows, complete]
  have knowsThere : (attachTargets source known registry).registry.Knows ids :=
    knows.of_refs (attachTargets_changesOnly known).refs
  rw [cut]
  refine ⟨succeeds, ?_⟩
  rw [attachTargets_append_registry known _ succeeds, attachTargets,
    knowsThere.component_of_not_mem unknown]

/-- A dependency that fails places nothing. -/
theorem recordDependency_of_error {failure : Failure}
    (fails : (recordDependency edge registry).result = .error failure) :
    (recordDependency edge registry).registry = registry := by
  unfold recordDependency at fails ⊢
  split at fails
  case h_1 => cases fails
  case h_2 => rfl

/-- An edge that fails and is not stopped from outside lacks a reference, and does what is done of
it in part. -/
theorem resolveEdge_partDone (knows : registry.Knows ids) {id : String}
    (missing : missingRef? ids edge = some id) :
    (partDone ids edge = [] ∧ (resolveEdge edge registry).registry = registry) ∨
    ∃ part, partDone ids edge = [part] ∧ part.source = edge.source ∧
      (resolveEdge part registry).result = .ok none ∧
      (resolveEdge part registry).registry = (resolveEdge edge registry).registry := by
  unfold partDone
  by_cases member : edge.source ∈ ids
  · have known := (knows edge.source).mpr member
    by_cases isContains : edge.kind = .contains
    · refine .inr ⟨_, if_pos ⟨member, isContains⟩, rfl, ?_⟩
      rw [missingRef?, if_neg (not_not.mpr member), if_pos (.inl isContains)] at missing
      obtain ⟨succeeds, same⟩ := attachTargets_of_unknown edge.source knows missing
      simp only [resolveEdge, if_pos known, isContains, succeeds, same, Except.map, and_self]
    · refine .inl ⟨if_neg fun both => isContains both.2, ?_⟩
      have fails := (resolveEdge_result knows edge).1 id missing
      rw [resolveEdge, if_pos known] at fails ⊢
      split at fails
      case h_1 isContained => exact absurd isContained isContains
      case h_2 => exact recordDependency_of_error fails
      case h_3 => cases fails
  · refine .inl ⟨if_neg fun both => member both.1, ?_⟩
    rw [resolveEdge, if_neg fun known => member ((knows edge.source).mp known)]

/-- An edge that fails is stopped or lacks a reference, and leaves what the edges leave that are done
of it. -/
theorem edgeStep_halts (knows : registry.Knows ids) {failure : Failure}
    (fails : (edgeStep (interrupts index) index edge registry).result = .error failure) :
    ∃ done, Halts ids (interrupts index) index edge registry failure done ∧
      (resolveEdgesUnder interrupts index done registry).result = .ok [] ∧
      (resolveEdgesUnder interrupts index done registry).registry =
        (edgeStep (interrupts index) index edge registry).registry := by
  cases passes : (interrupts index).check "relationship resolution" with
  | error stop =>
      simp only [edgeStep, passes] at fails ⊢
      cases fails
      exact ⟨[], .stopped passes, rfl, rfl⟩
  | ok _ =>
      have taken : isSkipped edge registry = false := by
        by_contra notTaken
        have skipped : isSkipped edge registry = true := by simpa using notTaken
        obtain ⟨found, done⟩ := (edgeStep_result passes knows index).2 (.inl skipped)
        rw [fails] at done
        cases done
      cases missing : missingRef? ids edge with
      | none =>
          obtain ⟨found, done⟩ := (edgeStep_result passes knows index).2 (.inr missing)
          rw [fails] at done
          cases done
      | some id =>
          cases fails.symm.trans ((edgeStep_result passes knows index).1 id taken missing)
          refine ⟨partDone ids edge, .dangling passes taken missing, ?_⟩
          -- What is done of the edge has its source, so it is not skipped either.
          have atEdge : (edgeStep (interrupts index) index edge registry).registry =
              (resolveEdge edge registry).registry := by
            simp only [edgeStep, passes, taken, if_neg Bool.false_ne_true]
          rw [atEdge]
          obtain ⟨nothing, same⟩ | ⟨part, isPart, sameSource, resolves, same⟩ :=
            resolveEdge_partDone knows missing
          · rw [nothing, same]
            exact ⟨rfl, rfl⟩
          · have partTaken : isSkipped part registry = false := by
              rw [isSkipped, sameSource]
              exact taken
            rw [isPart]
            simp [resolveEdgesUnder, edgeStep, passes, partTaken, resolves, same, inContext,
              Except.map, Except.mapError]

/-- Where edges fail and the first of them does not, the others fail. -/
theorem rest_fails_of_cons_fails {rest : List Edge} {found : Option Dependency} {failure : Failure}
    (first : (edgeStep (interrupts index) index edge registry).result = .ok found)
    (fails : (resolveEdgesUnder interrupts index (edge :: rest) registry).result =
      .error failure) :
    (resolveEdgesUnder interrupts (index + 1) rest
      (edgeStep (interrupts index) index edge registry).registry).result = .error failure := by
  simp only [resolveEdgesUnder, first] at fails
  cases later : (resolveEdgesUnder interrupts (index + 1) rest
      (edgeStep (interrupts index) index edge registry).registry).result with
  | error cause =>
      rw [later] at fails
      exact fails
  | ok dependencies =>
      rw [later] at fails
      cases fails

/-- Edges that fail do so at one of them, after the edges before it succeeded, and leave what these
leave together with what is done of the edge. -/
theorem resolveEdgesUnder_halts (edges : List Edge) (knows : registry.Knows ids)
    {failure : Failure}
    (fails : (resolveEdgesUnder interrupts index edges registry).result = .error failure) :
    ∃ before edge after done dependencies, edges = before ++ edge :: after ∧
      (resolveEdgesUnder interrupts index before registry).result = .ok dependencies ∧
      Halts ids (interrupts (index + before.length)) (index + before.length) edge
        (resolveEdgesUnder interrupts index before registry).registry failure done ∧
      (resolveEdgesUnder interrupts index (before ++ done) registry).result = .ok dependencies ∧
      (resolveEdgesUnder interrupts index edges registry).registry =
        (resolveEdgesUnder interrupts index (before ++ done) registry).registry := by
  induction edges generalizing index registry with
  | nil => cases fails
  | cons edge rest inductionHypothesis =>
      cases first : (edgeStep (interrupts index) index edge registry).result with
      | error cause =>
          simp only [resolveEdgesUnder, first] at fails ⊢
          cases fails
          obtain ⟨done, halts, succeeds, same⟩ := edgeStep_halts knows first
          exact ⟨[], edge, rest, done, [], rfl, rfl, halts, succeeds, same.symm⟩
      | ok found =>
          have knowsNext := knows.of_refs
            (edgeStep_changesOnly (interrupts index) index edge registry).refs
          obtain ⟨before, other, after, done, dependencies, rfl, succeeds, halts, doneToo, same⟩ :=
            inductionHypothesis knowsNext (rest_fails_of_cons_fails first fails)
          refine ⟨edge :: before, other, after, done, found.toList ++ dependencies, rfl, ?_, ?_, ?_,
            ?_⟩
          · simp only [resolveEdgesUnder, first, succeeds, Except.map]
          · rw [List.length_cons, ← Nat.add_assoc, Nat.add_right_comm]
            simpa only [resolveEdgesUnder, first] using halts
          · simp only [List.cons_append, resolveEdgesUnder, first, doneToo, Except.map]
          · simp only [List.cons_append, resolveEdgesUnder, first, same]

/-- Edges let records grow and keep the root, whether they fail or not. -/
theorem resolveEdgesUnder_frame (interrupts : Nat → Interrupt) (index : Nat) (edges : List Edge)
    (registry : Registry) :
    AllGrowInto registry.records
        (resolveEdgesUnder interrupts index edges registry).registry.records ∧
      (resolveEdgesUnder interrupts index edges registry).registry.rootId = registry.rootId := by
  induction edges generalizing index registry with
  | nil => exact ⟨.refl _, rfl⟩
  | cons edge rest inductionHypothesis =>
      have grow := edgeStep_grow (interrupts index) index edge registry
      have sameRoot :=
        (edgeStep_changesOnly (interrupts index) index edge registry).elsewhere.rootId.symm
      rw [resolveEdgesUnder]
      split
      case h_1 => exact ⟨grow, sameRoot⟩
      case h_2 =>
        obtain ⟨growLater, sameLater⟩ := inductionHypothesis (index + 1)
          (edgeStep (interrupts index) index edge registry).registry
        exact ⟨grow.trans growLater, sameLater.trans sameRoot⟩

/-- What a resolution leaves. If it fails, it does so at one edge after the edges before it
succeeded, either because it is stopped there or because the edge is not skipped and lacks a
reference. There is no list of dependencies then, and the registry is the one of a resolution that
succeeds: of the edges before and, if the edge is a containment with a known source, of this edge
with the targets before the first unknown one. Whether it fails or not, the registered references,
their order and the root stay, and records change by gaining children only. -/
theorem resolveEdges_leaves (interrupts : Nat → Interrupt) (edges : List Edge)
    (registry : Registry) :
    (∀ failure, (resolveEdgesUnder interrupts 0 edges registry).result = .error failure →
      ∃ before edge after done dependencies, edges = before ++ edge :: after ∧
        (resolveEdgesUnder interrupts 0 before registry).result = .ok dependencies ∧
        Halts (registry.records.map Component.ref) (interrupts before.length) before.length edge
          (resolveEdgesUnder interrupts 0 before registry).registry failure done ∧
        (resolveEdgesUnder interrupts 0 (before ++ done) registry).result = .ok dependencies ∧
        (resolveEdgesUnder interrupts 0 edges registry).registry =
          (resolveEdgesUnder interrupts 0 (before ++ done) registry).registry) ∧
    ((resolveEdgesUnder interrupts 0 edges registry).registry.records.map Component.ref =
        registry.records.map Component.ref ∧
      (resolveEdgesUnder interrupts 0 edges registry).registry.rootId = registry.rootId ∧
      AllGrowInto registry.records
        (resolveEdgesUnder interrupts 0 edges registry).registry.records) ∧
    ∀ interrupt, resolveEdges interrupt edges registry =
      resolveEdgesUnder (fun _ => interrupt) 0 edges registry := by
  refine ⟨fun failure fails => ?_, ?_, fun interrupt => ?_⟩
  · have knows : registry.Knows (registry.records.map Component.ref) :=
      fun _ => Registry.contains_iff
    simpa only [Nat.zero_add] using resolveEdgesUnder_halts edges knows fails
  · obtain ⟨grow, sameRoot⟩ := resolveEdgesUnder_frame interrupts 0 edges registry
    exact ⟨grow.refs, sameRoot, grow⟩
  · exact (resolveEdgesUnder_const interrupt 0 edges registry).symm

/-- A registry whose root is `app`, with three more components that have no place yet. -/
def rootedRegistry : Registry where
  records := [.bare "app" "", .bare "lib" "", .bare "part" "", .bare "tool" ""]
  placements := [("app", .root)]
  rootId := some "app"

/-- Edges of which the second one names an unknown reference between two known ones. -/
def ghostEdges : List Edge := [
  ⟨"app", .contains, ["lib"]⟩,
  ⟨"app", .contains, ["part", "ghost", "tool"]⟩,
  ⟨"app", .dependsOn, ["tool"]⟩]

theorem resolveEdges_leaves_ghostEdges :
    (resolveEdges {} ghostEdges rootedRegistry).result =
      .error (.lookup ("edge #1 (app --contains--> [part, ghost, tool]): " ++
        "containment target: component registry") "ghost") ∧
    (resolveEdges {} ghostEdges rootedRegistry).registry =
      (resolveEdges {} [⟨"app", .contains, ["lib"]⟩, ⟨"app", .contains, ["part"]⟩]
        rootedRegistry).registry ∧
    AllGrowInto rootedRegistry.records
      (resolveEdges {} ghostEdges rootedRegistry).registry.records := by
  have sameRun : ∀ edges, resolveEdges {} edges rootedRegistry =
      resolveEdgesUnder (fun _ => {}) 0 edges rootedRegistry :=
    fun edges => (resolveEdges_leaves (fun _ => {}) edges rootedRegistry).2.2 {}
  simp only [sameRun]
  obtain ⟨halting, ⟨_, _, grow⟩, _⟩ :=
    resolveEdges_leaves (fun _ => {}) ghostEdges rootedRegistry
  obtain ⟨failure, fails⟩ : ∃ failure,
      (resolveEdgesUnder (fun _ => {}) 0 ghostEdges rootedRegistry).result = .error failure :=
    ⟨_, rfl⟩
  obtain ⟨before, edge, after, done, dependencies, position, -, halts, -, same⟩ :=
    halting failure fails
  cases halts with
  | stopped stops => cases stops
  | dangling _ taken missing =>
      -- Neither the first edge nor the last one lacks a reference.
      rcases before with _ | ⟨first, _ | ⟨second, _ | ⟨third, rest⟩⟩⟩
      · cases position
        cases missing
      · cases position
        cases missing
        exact ⟨fails, same, grow⟩
      · cases position
        cases missing
      · simp [ghostEdges] at position

end Sbom.Conversion
