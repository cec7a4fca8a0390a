import Mathlib.Data.List.Induction
import Sbom.Proofs.Digits
import Sbom.Proofs.Skipping

/-!
# Edges that name unknown references

An edge that is not skipped needs its source to be registered, and a containment or a dependency
needs its targets as well. `missingRef?` is the reference that such an edge lacks first. A
resolution that is not stopped from outside fails exactly if some edge that is not skipped lacks a
reference, and then with the first of them; what a skipped edge names is never looked up.
-/

namespace Sbom.Conversion

open CycloneDx (Component Dependency)
open Sbom.Graph (Edge)

/-- The reference that an edge lacks first: its source, or else the first of the targets of a
containment or dependency. An edge of any other kind does not need its targets. -/
def missingRef? (ids : List String) (edge : Edge) : Option String :=
  if edge.source ∉ ids then some edge.source
  else if edge.kind = .contains ∨ edge.kind = .dependsOn then
    edge.targets.find? fun target => target ∉ ids
  else none

/-- As what the reference that an edge lacks is looked up. -/
def lookupPlace (ids : List String) (edge : Edge) : String :=
  if edge.source ∉ ids then "edge source"
  else if edge.kind = .contains then "containment target: component registry"
  else "dependency target"

/-- The failure of an edge that lacks a reference. It names the position of the edge, its source, kind
and targets, and as what the reference was looked up. -/
def missingRefFailure (ids : List String) (index : Nat) (edge : Edge) (id : String) : Failure :=
  .lookup ("edge #" ++ toString index ++ " (" ++ edge.source ++ " --" ++ edge.kind.name ++ "--> [" ++
    ", ".intercalate edge.targets ++ "]): " ++ lookupPlace ids edge) id

/-- An edge is the first one that is not skipped and lacks a reference. -/
structure FirstDangling (root : Option String) (ids : List String) (edges before : List Edge)
    (edge : Edge) (id : String) : Prop where
  position : ∃ after, edges = before ++ edge :: after
  earlier : ∀ other ∈ takenEdges root before, missingRef? ids other = none
  taken : ¬ SkippedAfter root (takenEdges root before) edge
  missing : missingRef? ids edge = some id

section Taken

variable {root : Option String} {ids : List String}

/-- Taken edges stay taken. -/
theorem subset_takeEdges (taken edges : List Edge) : taken ⊆ edges.foldl (takeEdge root) taken := by
  induction edges generalizing taken with
  | nil => exact List.Subset.refl _
  | cons edge rest inductionHypothesis =>
      refine List.Subset.trans ?_ (inductionHypothesis (takeEdge root taken edge))
      unfold takeEdge
      split
      · exact List.Subset.refl _
      · exact List.subset_append_left _ _

theorem takenEdges_append_singleton (edges : List Edge) (edge : Edge) :
    takenEdges root (edges ++ [edge]) = takeEdge root (takenEdges root edges) edge := by
  rw [takenEdges, List.foldl_append]
  rfl

/-- What was taken up to an edge, the edge included, stays taken whatever comes after it. -/
theorem takeEdge_subset_takenEdges (root : Option String) (before after : List Edge) (edge : Edge) :
    takeEdge root (takenEdges root before) edge ⊆ takenEdges root (before ++ edge :: after) := by
  rw [takenEdges, takenEdges, List.foldl_append, List.foldl_cons]
  exact subset_takeEdges _ _

/-- Either every edge that is not skipped has its references, or there is a first one that does
not. -/
theorem complete_or_firstDangling (root : Option String) (ids : List String) (edges : List Edge) :
    (∀ edge ∈ takenEdges root edges, missingRef? ids edge = none) ∨
      ∃ before edge id, FirstDangling root ids edges before edge id := by
  -- From the end, because whether an edge is skipped depends on all edges before it.
  induction edges using List.reverseRecOn with
  | nil => exact .inl fun edge member => absurd member List.not_mem_nil
  | append_singleton edges edge inductionHypothesis =>
      rcases inductionHypothesis with complete | ⟨before, other, id, ⟨after, rfl⟩, earlier, taken,
        missing⟩
      · rw [takenEdges_append_singleton]
        by_cases skipped : SkippedAfter root (takenEdges root edges) edge
        · rw [takeEdge_of_skipped skipped]
          exact .inl complete
        · cases missing : missingRef? ids edge with
          | none =>
              rw [takeEdge_of_not_skipped skipped]
              refine .inl fun other member => ?_
              rcases List.mem_append.mp member with isEarlier | isLast
              · exact complete other isEarlier
              · rw [List.mem_singleton.mp isLast]
                exact missing
          | some id => exact .inr ⟨edges, edge, id, ⟨[], rfl⟩, complete, skipped, missing⟩
      · exact .inr ⟨before, other, id, ⟨after ++ [edge], by simp⟩, earlier, taken, missing⟩

end Taken

/-- A registry in which exactly the given references are registered. -/
def Registry.Knows (ids : List String) (registry : Registry) : Prop :=
  ∀ id, registry.contains id = true ↔ id ∈ ids

variable {ids : List String} {registry : Registry} {source : String} {edge : Edge}

/-- Nesting a component registers nothing and removes nothing. -/
theorem Registry.Knows.nest (knows : registry.Knows ids) (target : String) (child : Component) :
    ((registry.place target .nested).1.addChild source child).Knows ids := by
  intro id
  rw [Registry.contains_iff, Registry.addChild_refs, Registry.place_records,
    ← Registry.contains_iff]
  exact knows id

/-- A reference is looked up successfully exactly if it is registered. -/
theorem Registry.Knows.component_of_mem (knows : registry.Knows ids) {id : String}
    (member : id ∈ ids) : ∃ child, registry.component id = .ok child := by
  have known := (knows id).mpr member
  rw [Registry.component]
  cases found : registry.record? id with
  | some child => exact ⟨child, rfl⟩
  | none =>
      rw [Registry.record?, List.find?_eq_none] at found
      obtain ⟨component, isRecord, isRef⟩ := List.any_eq_true.mp known
      exact absurd isRef (found component isRecord)

theorem Registry.Knows.component_of_not_mem (knows : registry.Knows ids) {id : String}
    (unknown : id ∉ ids) : registry.component id = .error (.lookup "component registry" id) := by
  have missing : registry.record? id = none := by
    rw [Registry.record?, List.find?_eq_none]
    intro component isRecord isRef
    exact unknown ((knows id).mp (List.any_eq_true.mpr ⟨component, isRecord, isRef⟩))
  rw [Registry.component, missing]

/-- Attaching targets fails exactly for the first target that is not registered. -/
theorem attachTargets_result (knows : registry.Knows ids) (targets : List String) :
    (attachTargets source targets registry).result =
      match targets.find? fun target => target ∉ ids with
      | some id => .error (.lookup "containment target: component registry" id)
      | none => .ok () := by
  induction targets generalizing registry with
  | nil => rfl
  | cons target rest inductionHypothesis =>
      rw [attachTargets]
      by_cases member : target ∈ ids
      · obtain ⟨child, found⟩ := knows.component_of_mem member
        rw [List.find?_cons_of_neg (by simpa using member)]
        simp only [found]
        split
        · exact inductionHypothesis knows
        · exact inductionHypothesis (knows.nest target child)
      · rw [List.find?_cons_of_pos (by simpa using member)]
        simp only [knows.component_of_not_mem member]
        rfl

/-- Collecting the distinct targets of a dependency fails exactly for the first target that is not
registered. -/
theorem distinctTargets_result (knows : registry.Knows ids) (source : String)
    (targets : List String) {seen : List String} (allKnown : seen ⊆ ids) :
    (∀ id, (targets.find? fun target => target ∉ ids) = some id →
      (distinctTargets registry source targets seen).2 = .error (.lookup "dependency target" id)) ∧
    ((targets.find? fun target => target ∉ ids) = none →
      ∃ distinct, (distinctTargets registry source targets seen).2 = .ok distinct) := by
  induction targets generalizing seen with
  | nil => exact ⟨fun id missing => (by cases missing), fun _ => ⟨[], rfl⟩⟩
  | cons target rest inductionHypothesis =>
      rw [distinctTargets]
      by_cases member : target ∈ ids
      · rw [List.find?_cons_of_neg (by simpa using member)]
        by_cases repeated : target ∈ seen
        · rw [if_pos (by simpa using repeated)]
          exact inductionHypothesis allKnown
        · rw [if_neg (by simpa using repeated), if_pos ((knows target).mpr member)]
          obtain ⟨fails, succeeds⟩ :=
            inductionHypothesis (List.cons_subset.mpr ⟨member, allKnown⟩)
          constructor
          · intro id missing
            simp [fails id missing, Except.map]
          · intro complete
            obtain ⟨distinct, found⟩ := succeeds complete
            exact ⟨target :: distinct, by simp [found, Except.map]⟩
      · have notSeen : target ∉ seen := fun isSeen => member (allKnown isSeen)
        have notContained : registry.contains target ≠ true := fun known =>
          member ((knows target).mp known)
        rw [List.find?_cons_of_pos (by simpa using member), if_neg (by simpa using notSeen),
          if_neg notContained]
        exact ⟨fun id missing => (by cases missing; rfl), fun complete => (by cases complete)⟩

/-- An edge that is not skipped fails exactly if it lacks a reference. -/
theorem resolveEdge_result (knows : registry.Knows ids) (edge : Edge) :
    (∀ id, missingRef? ids edge = some id →
      (resolveEdge edge registry).result = .error (.lookup (lookupPlace ids edge) id)) ∧
    (missingRef? ids edge = none → ∃ found, (resolveEdge edge registry).result = .ok found) := by
  unfold missingRef? lookupPlace resolveEdge
  by_cases member : edge.source ∈ ids
  · have notMissing : ¬ edge.source ∉ ids := not_not.mpr member
    rw [if_neg notMissing, if_neg notMissing, if_pos ((knows edge.source).mpr member)]
    by_cases isContains : edge.kind = .contains
    · rw [if_pos (.inl isContains), if_pos isContains]
      simp only [isContains, attachTargets_result knows]
      constructor
      · intro id missing
        rw [missing]
        rfl
      · intro complete
        rw [complete]
        exact ⟨none, rfl⟩
    · rw [if_neg isContains]
      by_cases isDependsOn : edge.kind = .dependsOn
      · rw [if_pos (.inr isDependsOn)]
        obtain ⟨fails, succeeds⟩ :=
          distinctTargets_result knows edge.source edge.targets (List.nil_subset ids)
        simp only [isDependsOn, recordDependency]
        cases distinct : distinctTargets registry edge.source edge.targets [] with
        | mk report result =>
            rw [distinct] at fails succeeds
            constructor
            · intro id missing
              cases fails id missing
              rfl
            · intro complete
              obtain ⟨targets, isOk⟩ := succeeds complete
              cases isOk
              exact ⟨_, rfl⟩
      · rw [if_neg (not_or.mpr ⟨isContains, isDependsOn⟩)]
        refine ⟨fun id missing => (by cases missing), fun _ => ⟨none, ?_⟩⟩
        split
        · exact absurd ‹_› isContains
        · exact absurd ‹_› isDependsOn
        · rfl
  · have notContained : registry.contains edge.source ≠ true := fun known =>
      member ((knows edge.source).mp known)
    rw [if_pos member, if_pos member, if_neg notContained]
    exact ⟨fun id missing => (by cases missing; rfl), fun complete => (by cases complete)⟩

/-- What stands before the place of a failed lookup. -/
theorem edgeContext_append (index : Nat) (edge : Edge) (place : String) :
    edgeContext index edge ++ ": " ++ place =
      "edge #" ++ toString index ++ " (" ++ edge.source ++ " --" ++ edge.kind.name ++ "--> [" ++
        ", ".intercalate edge.targets ++ "]): " ++ place := by
  have closing : "]): " = "]" ++ ")" ++ ": " := rfl
  rw [edgeContext, Edge.shown, Text.decimalText_eq_toString, closing]
  simp only [String.append_assoc]

/-- A failed lookup in the context of its edge. -/
theorem lookup_within (index : Nat) (id : String) :
    (Failure.lookup (lookupPlace ids edge) id).within (edgeContext index edge) =
      missingRefFailure ids index edge id := by
  have named : (lookupPlace ids edge).isEmpty = false := by
    unfold lookupPlace
    split_ifs <;> rfl
  rw [missingRefFailure, Failure.within, Failure.chain, named, if_neg Bool.false_ne_true,
    edgeContext_append]

section Run

variable {interrupt : Interrupt} {record : String → Component} {outline : Outline}
  {taken : List Edge}

/-- An edge that is not stopped from outside fails exactly if it is not skipped and lacks a
reference. -/
theorem edgeStep_result (passes : interrupt.check "relationship resolution" = .ok ())
    (knows : registry.Knows ids) (index : Nat) :
    (∀ id, isSkipped edge registry = false → missingRef? ids edge = some id →
      (edgeStep interrupt index edge registry).result =
        .error (missingRefFailure ids index edge id)) ∧
    (isSkipped edge registry = true ∨ missingRef? ids edge = none →
      ∃ found, (edgeStep interrupt index edge registry).result = .ok found) := by
  obtain ⟨fails, succeeds⟩ := resolveEdge_result knows edge
  simp only [edgeStep, passes]
  constructor
  · intro id notSkipped missing
    rw [notSkipped, if_neg Bool.false_ne_true, ← lookup_within]
    simp only [fails id missing, inContext, Except.mapError]
  · intro passesLookup
    by_cases skipped : isSkipped edge registry = true
    · rw [if_pos skipped]
      exact ⟨none, rfl⟩
    · rw [if_neg skipped]
      obtain ⟨found, resolved⟩ := succeeds (passesLookup.resolve_left skipped)
      exact ⟨found, by simp only [resolved, inContext, Except.mapError]⟩

/-- A registry that represents an outline knows its references. -/
theorem Represents.knows (represents : Represents ids record outline registry)
    (named : Forest.Named ids record) : registry.Knows ids :=
  fun _ => represents.contains_iff named

/-- An edge is skipped exactly if a taken edge places its source. -/
theorem Represents.isSkipped_iff_skippedAfter
    (represents : Represents ids record outline registry) (follows : outline.Follows taken)
    (edge : Edge) : isSkipped edge registry = true ↔ SkippedAfter outline.root taken edge :=
  (represents.isSkipped_iff edge).trans (follows.skips_iff edge)

/-- Edges are resolved if those that are not skipped lack no reference. -/
theorem Represents.resolveEdgesFrom_succeeds
    (represents : Represents ids record outline registry) (named : Forest.Named ids record)
    (follows : outline.Follows taken) (passes : interrupt.check "relationship resolution" = .ok ())
    (index : Nat) (edges : List Edge)
    (complete : ∀ edge ∈ edges.foldl (takeEdge outline.root) taken, missingRef? ids edge = none) :
    ∃ dependencies, (Conversion.resolveEdgesFrom interrupt index edges registry).result =
      .ok dependencies := by
  induction edges generalizing index outline registry taken with
  | nil => exact ⟨[], rfl⟩
  | cons edge rest inductionHypothesis =>
      have passesLookup : isSkipped edge registry = true ∨ missingRef? ids edge = none := by
        by_cases skipped : SkippedAfter outline.root taken edge
        · exact .inl ((represents.isSkipped_iff_skippedAfter follows edge).mpr skipped)
        · refine .inr (complete edge (subset_takeEdges _ rest ?_))
          rw [takeEdge_of_not_skipped skipped]
          exact List.mem_append_right _ List.mem_cons_self
      obtain ⟨found, first⟩ :=
        (edgeStep_result passes (represents.knows named) index).2 passesLookup
      obtain ⟨representsNext, _⟩ := represents.edgeStep named first
      have followsNext := follows.follow edge
      obtain ⟨others, later⟩ := inductionHypothesis representsNext followsNext (index + 1)
        (by rw [Outline.follow_root]; exact complete)
      exact ⟨found.toList ++ others, by
        simp only [Conversion.resolveEdgesFrom, first, later, Except.map]⟩

/-- Edges behind others that are resolved continue from the registry these leave. -/
theorem resolveEdgesFrom_append (before rest : List Edge) (index : Nat)
    {dependencies : List Dependency}
    (succeeds : (resolveEdgesFrom interrupt index before registry).result = .ok dependencies) :
    (resolveEdgesFrom interrupt index (before ++ rest) registry).result =
      (resolveEdgesFrom interrupt (index + before.length) rest
        (resolveEdgesFrom interrupt index before registry).registry).result.map
          (dependencies ++ ·) := by
  induction before generalizing index registry dependencies with
  | nil =>
      cases succeeds
      have unchanged : ∀ result : Except Failure (List Dependency),
          result.map ([] ++ ·) = result := by
        intro result
        cases result <;> rfl
      exact (unchanged _).symm
  | cons edge before inductionHypothesis =>
      obtain ⟨found, others, first, later, rfl, sameRegistry, _⟩ :=
        resolveEdgesFrom_cons_eq_ok succeeds
      have next := inductionHypothesis (index + 1) later
      rw [sameRegistry, List.length_cons, ← Nat.add_assoc, Nat.add_right_comm]
      rw [List.cons_append, resolveEdgesFrom]
      simp only [first, next]
      cases (resolveEdgesFrom interrupt (index + 1 + before.length) rest
          (resolveEdgesFrom interrupt (index + 1) before
            (edgeStep interrupt index edge registry).registry).registry).result with
      | error failure => rfl
      | ok remaining => simp [Except.map]

/-- Edges fail with the first one that is not skipped and lacks a reference. -/
theorem Represents.resolveEdges_fails {root : Option String} {edges before : List Edge}
    {id : String} (represents : Represents ids record { root } registry)
    (named : Forest.Named ids record)
    (passes : interrupt.check "relationship resolution" = .ok ())
    (dangling : FirstDangling root ids edges before edge id) :
    (resolveEdges interrupt edges registry).result =
      .error (missingRefFailure ids before.length edge id) := by
  obtain ⟨⟨after, rfl⟩, earlier, taken, missing⟩ := dangling
  -- The edges before it are resolved, and the registry they leave represents their outline.
  have follows : ({ root } : Outline).Follows [] := Outline.ofEdges_follows root []
  obtain ⟨dependencies, succeeds⟩ :=
    represents.resolveEdgesFrom_succeeds named follows passes 0 before earlier
  obtain ⟨representsThere, _⟩ := represents.resolveEdgesFrom named before succeeds
  have followsThere : (before.foldl Outline.follow { root }).Follows (takenEdges root before) :=
    Outline.ofEdges_follows root before
  have sameRoot : (before.foldl Outline.follow { root }).root = root :=
    (Outline.ofEdges_root_orderly root before).1
  have notSkipped : isSkipped edge
      (Conversion.resolveEdgesFrom interrupt 0 before registry).registry = false := by
    rw [← Bool.not_eq_true, representsThere.isSkipped_iff_skippedAfter followsThere, sameRoot]
    exact taken
  have fails := (edgeStep_result passes (representsThere.knows named) before.length).1 id
    notSkipped missing
  rw [resolveEdges, resolveEdgesFrom_append before (edge :: after) 0 succeeds, Nat.zero_add,
    Conversion.resolveEdgesFrom]
  simp only [fails, Except.map]

end Run

end Sbom.Conversion
