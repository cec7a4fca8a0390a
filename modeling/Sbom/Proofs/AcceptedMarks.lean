import Sbom.Proofs.Assembly
import Sbom.Proofs.Stripping
import Sbom.Settings.Validation

/-!
# Marks under which generated references are found

Valid settings clear under any mark that is not blank. A reference generated under a mark that ends in
a hyphen goes on with `auto--`, and it is found where its first segment reaches that far. A double
hyphen in the mark itself ends the segment before, so that nothing is found unless the mark has the
marker in front of it.
-/

namespace Sbom.Conversion

open Sbom.Graph (Document)
open Settings (Behavior)

/-- Whether the marker stands before every double hyphen of a mark. -/
def KeepsMarker (mark : String) : Prop :=
  ∀ segment, segment ++ ['-', '-'] <+: mark.toList → "-auto".toList <:+: segment

section Segments

variable {text segment rest : List Char} {c : Char}

/-- A text without a double hyphen stays in the first segment of what goes on with something else
than a hyphen. -/
theorem firstSegment_append_of_absent (absent : ¬ ['-', '-'] <:+: text) (notHyphen : c ≠ '-') :
    firstSegment (text ++ c :: rest) = text ++ firstSegment (c :: rest) := by
  induction text with
  | nil => rfl
  | cons first others inductionHypothesis =>
      have shorter := inductionHypothesis fun present => absent (List.infix_cons present)
      rw [List.cons_append, firstSegment, shorter, List.cons_append]
      intro after isHyphen opens
      cases others with
      | nil => exact notHyphen (List.cons.inj opens).1
      | cons second later =>
          obtain ⟨rfl, -⟩ := List.cons.inj opens
          subst isHyphen
          exact absurd (List.prefix_append ['-', '-'] later).isInfix absent

/-- What follows a double hyphen does not matter for the first segment. -/
theorem firstSegment_append_of_delimited (delimited : segment ++ ['-', '-'] <+: text) :
    firstSegment (text ++ rest) = firstSegment text := by
  induction text using firstSegment.induct generalizing segment with
  | case1 => simp at delimited
  | case2 => rfl
  | case3 first others notDouble inductionHypothesis =>
      obtain ⟨after, split⟩ := delimited
      cases segment with
      | nil =>
          obtain ⟨rfl, rfl⟩ := List.cons.inj split
          exact absurd rfl (notDouble after rfl)
      | cons head segment =>
          obtain ⟨rfl, rfl⟩ := List.cons.inj split
          have later := inductionHypothesis ⟨after, rfl⟩
          rw [List.cons_append, firstSegment, later, firstSegment]
          · exact notDouble
          · intro other isHyphen opens
            cases segment <;> simp_all

end Segments

variable {mark : String}

/-- In a mark with a double hyphen, it is enough that the marker stands before the first one. -/
theorem keepsMarker_iff_of_delimited (delimited : ['-', '-'] <:+: mark.toList) :
    KeepsMarker mark ↔ "-auto".toList <:+: firstSegment mark.toList := by
  have isShortest := isFirstSegment_firstSegment mark.toList
  generalize firstSegment mark.toList = shortest at isShortest ⊢
  cases isShortest with
  | whole absent => exact absurd delimited absent
  | before isDelimited isFirst =>
      constructor
      · exact fun keeps => keeps _ isDelimited
      · intro marked segment otherDelimited
        have within : shortest <+: segment :=
          List.prefix_of_prefix_length_le ((List.prefix_append _ _).trans isDelimited)
            ((List.prefix_append _ _).trans otherDelimited) (isFirst segment otherDelimited)
        exact marked.trans within.isInfix

/-- Under a mark that ends in a hyphen, what goes on with `auto--` is found exactly if the marker
stands before every double hyphen of the mark. -/
theorem isGeneratedRef_auto_iff (endsInHyphen : mark.toList.getLast? = some '-') (tail : String) :
    isGeneratedRef (mark ++ "auto--" ++ tail) mark = true ↔ KeepsMarker mark := by
  obtain ⟨start, split⟩ := List.getLast?_eq_some_iff.mp endsInHyphen
  have notEmpty : mark ≠ "" := by
    rintro rfl
    simp at endsInHyphen
  have written : (mark ++ "auto--" ++ tail).toList =
      mark.toList ++ 'a' :: ("uto--".toList ++ tail.toList) := by
    simp
  have segmentIff : isGeneratedRef (mark ++ "auto--" ++ tail) mark = true ↔
      "-auto".toList <:+: firstSegment (mark ++ "auto--" ++ tail).toList := by
    rw [isGeneratedRef, Bool.and_eq_true, Bool.and_eq_true, List.isPrefixOf_iff_prefix, written]
    simp [notEmpty, containsText_iff]
  rw [segmentIff, written]
  by_cases delimited : ['-', '-'] <:+: mark.toList
  · obtain ⟨before, after, isSplit⟩ := delimited
    rw [firstSegment_append_of_delimited ⟨after, isSplit⟩,
      keepsMarker_iff_of_delimited ⟨before, after, isSplit⟩]
  · have keeps : KeepsMarker mark := fun segment isDelimited =>
      absurd ((List.suffix_append segment _).isInfix.trans isDelimited.isInfix) delimited
    have marked : "-auto".toList <:+: mark.toList ++ "auto".toList :=
      ⟨start, [], by simp [split]⟩
    rw [firstSegment_append_of_absent delimited (by decide)]
    exact ⟨fun _ => keeps, fun _ => marked⟩

/-- A mark that ends in a hyphen is no problem for valid settings. -/
theorem behavior_problems_of_hyphen {behavior : Behavior}
    (endsInHyphen : behavior.generatedMark.toList.getLast? = some '-') :
    behavior.problems = [] := by
  have notBlank : Text.isAllBlank behavior.generatedMark = false := by
    have member := List.mem_of_getLast? endsInHyphen
    rw [Text.isAllBlank, Bool.eq_false_iff]
    intro allBlank
    exact absurd (List.all_eq_true.mp allBlank '-' member) (by decide)
  simp [Behavior.problems, notBlank]

/-- Where the mark of a behaviour that clears generated references ends in a hyphen, it is accepted,
whatever else is in it. A reference that goes on with `auto--` is then found as a generated one
exactly if the marker stands before every double hyphen of the mark; and in this case no component of
a converted document keeps such a reference. -/
theorem acceptedMark_clears {behavior : Behavior} (clears : behavior.clearGeneratedRefs = true)
    (endsInHyphen : behavior.generatedMark.toList.getLast? = some '-') :
    behavior.problems = [] ∧
    (∀ tail, isGeneratedRef (behavior.generatedMark ++ "auto--" ++ tail) behavior.generatedMark =
      true ↔ KeepsMarker behavior.generatedMark) ∧
    (KeepsMarker behavior.generatedMark → ∀ interrupt document converted,
      convert behavior interrupt document = .ok converted →
        ∀ tail, behavior.generatedMark ++ "auto--" ++ tail ∉ converted.bom.refs) := by
  refine ⟨behavior_problems_of_hyphen endsInHyphen, isGeneratedRef_auto_iff endsInHyphen, ?_⟩
  intro keeps interrupt document converted succeeds tail member
  obtain ⟨assembled, -, same⟩ := convert_eq_ok succeeds
  rw [if_pos clears] at same
  have noneGenerated := (clearGenerated_clearedFrom behavior.generatedMark assembled).noneGenerated
  rw [← same] at noneGenerated
  have generated := (isGeneratedRef_auto_iff endsInHyphen tail).mpr keeps
  rw [noneGenerated _ member] at generated
  cases generated

/-- Settings with a mark that has a double hyphen behind the marker. -/
def twofoldSettings : Settings where
  behavior := { generatedMark := "x-auto--y-" }

/-- A document with one node, which has the given id. -/
def singleDocument (id : String) : Document where
  nodeList := { nodes := [{ id }] }

theorem acceptedMark_clears_twofoldSettings :
    twofoldSettings.behavior.clearGeneratedRefs = true ∧
    twofoldSettings.behavior.generatedMark.toList.getLast? = some '-' ∧
    twofoldSettings.problems = [] ∧
    isGeneratedRef "x-auto--y-auto--1" "x-auto--y-" = true ∧
    ∃ converted, convert twofoldSettings.behavior {} (singleDocument "x-auto--y-auto--1") =
        .ok converted ∧ "x-auto--y-auto--1" ∉ converted.bom.refs := by
  have clears : twofoldSettings.behavior.clearGeneratedRefs = true := rfl
  have endsInHyphen : twofoldSettings.behavior.generatedMark.toList.getLast? = some '-' := by decide
  obtain ⟨accepted, found, cleared⟩ := acceptedMark_clears clears endsInHyphen
  have keeps : KeepsMarker twofoldSettings.behavior.generatedMark :=
    (keepsMarker_iff_of_delimited ⟨"x-auto".toList, "y-".toList, by decide⟩).mpr
      ⟨['x'], [], by decide⟩
  obtain ⟨converted, succeeds⟩ : ∃ converted, convert twofoldSettings.behavior {}
      (singleDocument "x-auto--y-auto--1") = .ok converted := ⟨_, rfl⟩
  refine ⟨clears, endsInHyphen, ?_, (found "1").mpr keeps, converted, succeeds,
    cleared keeps _ _ _ succeeds "1"⟩
  rw [Settings.problems, accepted]
  rfl

/-- Not every accepted mark that ends in a hyphen makes what goes on with `auto--` a generated
reference, nor does a conversion clear it under every such mark. -/
theorem not_forall_acceptedMark_clears :
    (¬ ∀ settings : Settings, settings.problems = [] →
      settings.behavior.clearGeneratedRefs = true →
      settings.behavior.generatedMark.toList.getLast? = some '-' → ∀ tail,
        isGeneratedRef (settings.behavior.generatedMark ++ "auto--" ++ tail)
          settings.behavior.generatedMark = true) ∧
    ¬ ∀ settings : Settings, settings.problems = [] →
      settings.behavior.clearGeneratedRefs = true →
      settings.behavior.generatedMark.toList.getLast? = some '-' →
      ∀ interrupt document converted,
        convert settings.behavior interrupt document = .ok converted →
        ∀ tail, settings.behavior.generatedMark ++ "auto--" ++ tail ∉ converted.bom.refs := by
  constructor
  · intro always
    exact absurd (always { behavior := { generatedMark := "a--b-" } } rfl rfl (by decide) "1")
      (by decide)
  · intro always
    obtain ⟨converted, succeeds, kept⟩ : ∃ converted, convert { generatedMark := "a--b-" } {}
        (singleDocument "a--b-auto--1") = .ok converted ∧ "a--b-auto--1" ∈ converted.bom.refs :=
      ⟨_, rfl, by decide⟩
    exact always { behavior := { generatedMark := "a--b-" } } rfl rfl (by decide) {}
      (singleDocument "a--b-auto--1") converted succeeds "1" kept

end Sbom.Conversion
