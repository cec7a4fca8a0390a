import Mathlib.Data.List.Nodup
import Sbom.Conversion.Relations

/-!
# Steps that do not fail

What each step of the resolution does when it does not fail, in one statement for each: the registry
it leaves, what it reports, and what it returns. Nothing about the registry before the step is
assumed.
-/

namespace Sbom.Conversion

open CycloneDx (Dependency)
open Sbom.Graph (Edge)

variable {registry : Registry} {source target : String} {edge : Edge}

/-- A target that does not fail is registered. It is either reported, or a copy of it is nested in
the source. -/
theorem attachTargets_cons_eq_ok {rest : List String}
    (succeeds : (attachTargets source (target :: rest) registry).result = .ok ()) :
    ∃ child, registry.component target = .ok child ∧
      (((target = source ∨ registry.isMaterialized target = true) ∧
        (attachTargets source rest registry).result = .ok () ∧
        attachTargets source (target :: rest) registry =
          { attachTargets source rest registry with
            report := alreadyPlaced source target ::
              (attachTargets source rest registry).report }) ∨
      (¬ (target = source ∨ registry.isMaterialized target = true) ∧
        (attachTargets source rest
          ((registry.place target .nested).1.addChild source child)).result = .ok () ∧
        attachTargets source (target :: rest) registry =
          attachTargets source rest
            ((registry.place target .nested).1.addChild source child))) := by
  rw [attachTargets] at succeeds ⊢
  cases found : registry.component target with
  | error failure => simp [found] at succeeds
  | ok child =>
      refine ⟨child, rfl, ?_⟩
      simp only [found] at succeeds ⊢
      by_cases refused : target = source ∨ registry.isMaterialized target = true
      · rw [if_pos refused] at succeeds ⊢
        exact .inl ⟨refused, succeeds, rfl⟩
      · rw [if_neg refused] at succeeds ⊢
        exact .inr ⟨refused, succeeds, rfl⟩

/-- A target of a dependency edge that does not fail is either reported as a repetition, or it is
registered and kept. -/
theorem distinctTargets_cons_eq_ok {rest seen : List String} {report : Report}
    {distinct : List String}
    (succeeds : distinctTargets registry source (target :: rest) seen = (report, .ok distinct)) :
    (target ∈ seen ∧ ∃ later, distinctTargets registry source rest seen = (later, .ok distinct) ∧
      report = duplicateTarget source target :: later) ∨
    (target ∉ seen ∧ registry.contains target = true ∧ ∃ others,
      distinctTargets registry source rest (target :: seen) = (report, .ok others) ∧
      distinct = target :: others) := by
  rw [distinctTargets] at succeeds
  split_ifs at succeeds with repeated known
  · cases later : distinctTargets registry source rest seen with
    | mk laterReport result =>
      simp only [later, Prod.mk.injEq] at succeeds
      obtain ⟨rfl, rfl⟩ := succeeds
      exact .inl ⟨by simpa using repeated, laterReport, rfl, rfl⟩
  · cases later : distinctTargets registry source rest (target :: seen) with
    | mk laterReport result =>
      cases result with
      | error failure => simp [later, Except.map] at succeeds
      | ok others =>
        simp only [later, Except.map, Prod.mk.injEq, Except.ok.injEq] at succeeds
        obtain ⟨rfl, rfl⟩ := succeeds
        exact .inr ⟨by simpa using repeated, known, others, rfl, rfl⟩
  · cases succeeds

/-- The distinct targets of a dependency edge are its first occurrences, all of them registered. If
none is reported, they are all of its targets. -/
theorem distinctTargets_eq_ok (targets seen : List String) {report : Report}
    {distinct : List String}
    (succeeds : distinctTargets registry source targets seen = (report, .ok distinct)) :
    distinct = (targets.filter fun target => target ∉ seen).eraseDups ∧
      (∀ target ∈ distinct, registry.contains target = true) ∧
      (report = [] → distinct = targets) := by
  induction targets generalizing seen report distinct with
  | nil =>
      cases succeeds
      simp
  | cons target rest inductionHypothesis =>
      obtain ⟨isSeen, _, later, rfl⟩ | ⟨isNew, known, others, later, rfl⟩ :=
        distinctTargets_cons_eq_ok succeeds
      · obtain ⟨firsts, allKnown, _⟩ := inductionHypothesis seen later
        exact ⟨by simpa [isSeen] using firsts, allKnown, fun nothing => by cases nothing⟩
      · obtain ⟨firsts, allKnown, complete⟩ := inductionHypothesis (target :: seen) later
        have remaining : (rest.filter fun other => other ∉ target :: seen) =
            (rest.filter fun other => other ∉ seen).filter fun other => !other == target := by
          rw [List.filter_filter]
          apply List.filter_congr
          intro other _
          rw [Bool.eq_iff_iff]
          simp
        refine ⟨?_, ?_, fun nothing => by rw [complete nothing]⟩
        · rw [List.filter_cons_of_pos (by simpa using isNew), List.eraseDups_cons, ← remaining,
            ← firsts]
        · intro other member
          rcases List.mem_cons.mp member with rfl | isLater
          · exact known
          · exact allKnown other isLater

/-- A dependency edge that does not fail places its distinct targets and gives one record. -/
theorem recordDependency_eq_ok {found : Option Dependency}
    (succeeds : (recordDependency edge registry).result = .ok found) :
    ∃ report targets,
      distinctTargets registry edge.source edge.targets [] = (report, .ok targets) ∧
      recordDependency edge registry =
        ⟨placeTargets targets registry, report, .ok (some ⟨edge.source, targets⟩)⟩ := by
  rw [recordDependency] at succeeds ⊢
  split at succeeds
  case h_1 report targets resolved => exact ⟨report, targets, resolved, rfl⟩
  case h_2 => cases succeeds

/-- What an edge that does not fail does: it is skipped, nests its targets, gives a dependency
record, or has no place in a tree. -/
theorem edgeStep_eq_ok {interrupt : Interrupt} {index : Nat} {found : Option Dependency}
    (succeeds : (edgeStep interrupt index edge registry).result = .ok found) :
    (isSkipped edge registry = true ∧
      edgeStep interrupt index edge registry = ⟨registry, [skippedEdge edge], .ok none⟩) ∨
    (isSkipped edge registry = false ∧ registry.contains edge.source = true ∧
      ((edge.kind = .contains ∧ (attachTargets edge.source edge.targets registry).result = .ok () ∧
        edgeStep interrupt index edge registry =
          ⟨(attachTargets edge.source edge.targets registry).registry,
            (attachTargets edge.source edge.targets registry).report, .ok none⟩) ∨
      (edge.kind = .dependsOn ∧ ∃ report targets,
        distinctTargets registry edge.source edge.targets [] = (report, .ok targets) ∧
        edgeStep interrupt index edge registry =
          ⟨placeTargets targets registry, report, .ok (some ⟨edge.source, targets⟩)⟩) ∨
      (edge.kind ≠ .contains ∧ edge.kind ≠ .dependsOn ∧
        edgeStep interrupt index edge registry =
          ⟨registry, [unsupportedEdge edge], .ok none⟩))) := by
  unfold edgeStep at succeeds ⊢
  split at succeeds
  case h_1 => cases succeeds
  case h_2 =>
    by_cases skipped : isSkipped edge registry = true
    · rw [if_pos skipped]
      exact .inl ⟨skipped, rfl⟩
    · rw [if_neg skipped] at succeeds ⊢
      refine .inr ⟨by simpa using skipped, ?_⟩
      have resolved : ∃ value, (resolveEdge edge registry).result = .ok value := by
        cases result : (resolveEdge edge registry).result with
        | error failure => simp [result, inContext, Except.mapError] at succeeds
        | ok value => exact ⟨value, rfl⟩
      obtain ⟨value, resolved⟩ := resolved
      unfold resolveEdge at resolved ⊢
      split at resolved
      case isFalse => cases resolved
      case isTrue known =>
        refine ⟨known, ?_⟩
        rw [if_pos known]
        split at resolved
        case h_1 kind =>
          have attached : (attachTargets edge.source edge.targets registry).result = .ok () := by
            cases result : (attachTargets edge.source edge.targets registry).result with
            | error failure => simp [result, Except.map] at resolved
            | ok _ => rfl
          exact .inl ⟨kind, attached, by simp [attached, Except.map, inContext, Except.mapError]⟩
        case h_2 kind =>
          obtain ⟨report, targets, distinct, recorded⟩ := recordDependency_eq_ok resolved
          exact .inr (.inl ⟨kind, report, targets, distinct, by
            simp [recorded, inContext, Except.mapError]⟩)
        case h_3 notContains notDependsOn =>
          exact .inr (.inr ⟨notContains, notDependsOn, by
            simp [inContext, Except.mapError]⟩)

/-- Edges that do not fail are resolved one after the other, each adding to the report and to the
dependency records. -/
theorem resolveEdgesFrom_cons_eq_ok {interrupt : Interrupt} {index : Nat} {rest : List Edge}
    {dependencies : List Dependency}
    (succeeds : (resolveEdgesFrom interrupt index (edge :: rest) registry).result =
      .ok dependencies) :
    ∃ found others, (edgeStep interrupt index edge registry).result = .ok found ∧
      (resolveEdgesFrom interrupt (index + 1) rest
        (edgeStep interrupt index edge registry).registry).result = .ok others ∧
      dependencies = found.toList ++ others ∧
      (resolveEdgesFrom interrupt index (edge :: rest) registry).registry =
        (resolveEdgesFrom interrupt (index + 1) rest
          (edgeStep interrupt index edge registry).registry).registry ∧
      (resolveEdgesFrom interrupt index (edge :: rest) registry).report =
        (edgeStep interrupt index edge registry).report ++
          (resolveEdgesFrom interrupt (index + 1) rest
            (edgeStep interrupt index edge registry).registry).report := by
  cases first : (edgeStep interrupt index edge registry).result with
  | error failure => simp [resolveEdgesFrom, first] at succeeds
  | ok found =>
      cases later : (resolveEdgesFrom interrupt (index + 1) rest
          (edgeStep interrupt index edge registry).registry).result with
      | error failure => simp [resolveEdgesFrom, first, later, Except.map] at succeeds
      | ok others =>
          have inOrder : dependencies = found.toList ++ others := by
            simpa [resolveEdgesFrom, first, later, Except.map, eq_comm] using succeeds
          refine ⟨found, others, rfl, rfl, inOrder, ?_, ?_⟩ <;> simp [resolveEdgesFrom, first]

end Sbom.Conversion
