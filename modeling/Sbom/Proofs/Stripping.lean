import Sbom.Proofs.Clearing
import Sbom.Proofs.Downgrade

/-!
# Clearing generated references in one pass

Clearing is defined by what it does to every component and by how many it does it to. The pass that
counts as it clears gives both. Its result is stated place by place, and the test for a generated
reference by what a reference is made of: a text is the first segment of another one if it ends where
the first double hyphen starts, wherever the mark and the marker are in it.
-/

namespace Sbom.Conversion

open CycloneDx (Component ComponentDetails)

/-- Whether a segment is the part of a text before its first double hyphen. -/
inductive IsFirstSegment (text : List Char) : List Char → Prop where
  /-- There is no double hyphen, and the segment is the whole text. -/
  | whole (absent : ¬ ['-', '-'] <:+: text) : IsFirstSegment text text
  /-- A double hyphen is behind the segment and none is behind a shorter one. -/
  | before {segment : List Char} (delimited : segment ++ ['-', '-'] <+: text)
      (first : ∀ other, other ++ ['-', '-'] <+: text → segment.length ≤ other.length) :
      IsFirstSegment text segment

/-- How trees stand to what the clearing of references generated under a mark makes of them. -/
structure TreesCleared (mark : String) (before after : List Component) : Prop where
  /-- Every path leads to the component it led to, with its reference cleared if it was
  generated. -/
  details : ∀ (index : Nat) (path : List Nat),
    after[index]?.bind (Tree.valueAt? · path) =
      (before[index]?.bind (Tree.valueAt? · path)).map fun details =>
        { details with ref := clearedRef mark details.ref }
  /-- No generated reference is left. -/
  noneGenerated : ∀ details ∈ Tree.valuesAll after, isGeneratedRef details.ref mark = false

section Segments

variable {text segment other part rest : List Char} {c : Char}

/-- A text has one first segment. -/
theorem IsFirstSegment.unique (isFirst : IsFirstSegment text segment)
    (otherIsFirst : IsFirstSegment text other) : segment = other := by
  cases isFirst with
  | whole absent =>
      cases otherIsFirst with
      | whole => rfl
      | before delimited =>
          exact absurd ((List.suffix_append _ _).isInfix.trans delimited.isInfix) absent
  | before delimited first =>
      cases otherIsFirst with
      | whole absent =>
          exact absurd ((List.suffix_append _ _).isInfix.trans delimited.isInfix) absent
      | before otherDelimited otherFirst =>
          have sameLength := Nat.le_antisymm (first _ otherDelimited) (otherFirst _ delimited)
          have isPart := (List.prefix_append segment _).trans delimited
          have otherIsPart := (List.prefix_append other _).trans otherDelimited
          have within := List.prefix_of_prefix_length_le isPart otherIsPart (Nat.le_of_eq sameLength)
          exact within.eq_of_length sameLength

/-- Behind a character that does not start a double hyphen, the first segment goes on. -/
theorem IsFirstSegment.cons (isFirst : IsFirstSegment rest segment)
    (opens : ¬ ['-', '-'] <+: c :: rest) : IsFirstSegment (c :: rest) (c :: segment) := by
  cases isFirst with
  | whole absent =>
      refine .whole fun present => ?_
      rcases List.infix_cons_iff.mp present with here | later
      · exact opens here
      · exact absent later
  | before delimited first =>
      refine .before ((List.prefix_cons_inj c).mpr delimited) fun other otherDelimited => ?_
      cases other with
      -- A double hyphen behind nothing would be one that `c` starts.
      | nil => exact absurd otherDelimited opens
      | cons d other =>
          have below := (List.cons_prefix_cons.mp otherDelimited).2
          exact Nat.succ_le_succ (first other below)

/-- What is computed as the first segment of a text is its first segment. -/
theorem isFirstSegment_firstSegment (text : List Char) :
    IsFirstSegment text (firstSegment text) := by
  induction text using firstSegment.induct with
  | case1 => exact .whole (by simp)
  | case2 rest => exact .before ⟨rest, rfl⟩ fun _ _ => Nat.zero_le _
  | case3 c rest notDouble inductionHypothesis =>
      rw [firstSegment]
      · refine inductionHypothesis.cons ?_
        rintro ⟨others, isDouble⟩
        obtain ⟨rfl, rfl⟩ := List.cons.inj isDouble
        exact notDouble _ rfl rfl
      · exact notDouble

/-- A text is found in another one exactly if it stands somewhere in it. -/
theorem containsText_iff : containsText part text = true ↔ part <:+: text := by
  induction text with
  | nil => simp [containsText]
  | cons c rest inductionHypothesis =>
      rw [containsText, Bool.or_eq_true, List.isPrefixOf_iff_prefix, inductionHypothesis,
        List.infix_cons_iff]

/-- A reference was generated under a mark exactly if the mark is not empty, the reference starts
with it, and `-auto` stands in its first segment. -/
theorem isGeneratedRef_iff {ref mark : String} :
    isGeneratedRef ref mark = true ↔
      mark ≠ "" ∧ mark.toList <+: ref.toList ∧
        ∃ segment, IsFirstSegment ref.toList segment ∧ "-auto".toList <:+: segment := by
  have segmentIff : (∃ segment, IsFirstSegment ref.toList segment ∧ "-auto".toList <:+: segment) ↔
      "-auto".toList <:+: firstSegment ref.toList := by
    constructor
    · rintro ⟨segment, isFirst, marked⟩
      rwa [← isFirst.unique (isFirstSegment_firstSegment _)]
    · exact fun marked => ⟨_, isFirstSegment_firstSegment _, marked⟩
  rw [segmentIff, ← containsText_iff]
  simp [isGeneratedRef, and_assoc]

end Segments

variable {mark : String}

theorem countGeneratedRefs_node (mark : String) (details : ComponentDetails)
    (children : List Component) :
    countGeneratedRefs mark [.node details children] =
      (if isGeneratedRef details.ref mark then 1 else 0) + countGeneratedRefs mark children := by
  simp only [countGeneratedRefs, Tree.valuesAll_cons, Tree.values_node, Tree.valuesAll_nil,
    List.append_nil, List.filter_cons]
  split
  · rw [List.length_cons, Nat.add_comm]
  · rw [Nat.zero_add]

theorem countGeneratedRefs_cons (mark : String) (tree : Component) (rest : List Component) :
    countGeneratedRefs mark (tree :: rest) =
      countGeneratedRefs mark [tree] + countGeneratedRefs mark rest := by
  simp only [countGeneratedRefs, Tree.valuesAll_cons, Tree.valuesAll_nil, List.append_nil,
    List.filter_append, List.length_append]

mutual

/-- The pass over a tree clears its components and adds their number. -/
theorem clearTree_eq (mark : String) : (cleared : Nat) → (tree : Component) →
    clearTree mark cleared tree =
      (tree.map (clearGeneratedRef mark), cleared + countGeneratedRefs mark [tree])
  | cleared, .node details children => by
    rw [clearTree, clearTrees_eq mark 0 children, Nat.zero_add, Tree.map, countGeneratedRefs_node]
    split
    · rw [Nat.add_assoc]
    · rw [Nat.zero_add]

theorem clearTrees_eq (mark : String) : (cleared : Nat) → (trees : List Component) →
    clearTrees mark cleared trees =
      (Tree.mapAll (clearGeneratedRef mark) trees, cleared + countGeneratedRefs mark trees)
  | cleared, [] => rfl
  | cleared, tree :: rest => by
    rw [clearTrees, clearTree_eq mark cleared tree, clearTrees_eq mark _ rest, Tree.mapAll,
      countGeneratedRefs_cons mark tree rest, Nat.add_assoc]

end

/-- Clearing does to every place what it does to a component, and leaves no generated reference. -/
theorem treesCleared (mark : String) (components : List Component) :
    TreesCleared mark components (clearGeneratedRefs mark components).1 where
  details index path := by
    rw [clearGeneratedRefs, Tree.mapAll_eq_map, List.getElem?_map, ← clearGeneratedRef_eq]
    cases components[index]? with
    | none => rfl
    | some tree => exact Tree.valueAt?_map _ tree path
  noneGenerated details member := by
    rw [clearGeneratedRefs, Tree.valuesAll_mapAll] at member
    obtain ⟨original, _, rfl⟩ := List.mem_map.mp member
    rw [clearGeneratedRef_eq]
    exact isGeneratedRef_clearedRef mark original.ref

/-- Clearing changes nothing and counts nothing exactly where no reference was generated. -/
theorem clearGeneratedRefs_eq_self_iff (mark : String) (components : List Component) :
    clearGeneratedRefs mark components = (components, 0) ↔
      ∀ details ∈ Tree.valuesAll components, isGeneratedRef details.ref mark = false := by
  rw [clearGeneratedRefs, Prod.mk.injEq, countGeneratedRefs, List.length_eq_zero_iff,
    List.filter_eq_nil_iff, Tree.mapAll_eq_self_iff]
  simp only [Bool.not_eq_true]
  refine and_iff_right_of_imp fun noneGenerated details member => ?_
  rw [clearGeneratedRef, if_neg (by simp [noneGenerated details member])]

/-- One pass over trees clears their generated references and counts them. What it counts is the
number of components at any depth whose reference was generated; it empties these references and
changes nothing else, at no place; none is left, so that a second pass changes nothing and counts
nothing, as the first one does exactly if there was none. A reference was generated if it starts with
the mark, which is not empty, and has `-auto` before its first double hyphen. -/
theorem clearGeneratedRefs_strips (mark : String) (components : List Component) :
    let stripped := clearGeneratedRefs mark components
    clearTrees mark 0 components = stripped ∧
    stripped.2 = (Tree.preorderAll components).countP
      (fun component : Component => isGeneratedRef component.ref mark) ∧
    TreesCleared mark components stripped.1 ∧
    clearGeneratedRefs mark stripped.1 = (stripped.1, 0) ∧
    (stripped = (components, 0) ↔
      ∀ details ∈ Tree.valuesAll components, isGeneratedRef details.ref mark = false) ∧
    ∀ ref, isGeneratedRef ref mark = true ↔
      mark ≠ "" ∧ mark.toList <+: ref.toList ∧
        ∃ segment, IsFirstSegment ref.toList segment ∧ "-auto".toList <:+: segment := by
  intro stripped
  have cleared := treesCleared mark components
  refine ⟨?_, ?_, cleared, (clearGeneratedRefs_eq_self_iff mark _).mpr cleared.noneGenerated,
    clearGeneratedRefs_eq_self_iff mark components, fun ref => isGeneratedRef_iff⟩
  · rw [clearTrees_eq, Nat.zero_add]
    rfl
  · show countGeneratedRefs mark components = _
    rw [countGeneratedRefs, Tree.valuesAll, ← List.countP_eq_length_filter, List.countP_map]
    rfl

/-- A component with a generated reference and two components in it: one has the marker behind a
double hyphen, the other one has no double hyphen. -/
def nestedRefs : List Component := [
  .node { ref := "gen-auto--1", name := "app" } [
    .leaf { ref := "gen--2-auto" }, .leaf { ref := "gen-auto-3" }]]

theorem clearGeneratedRefs_strips_nestedRefs :
    (clearGeneratedRefs "gen-" nestedRefs).2 = 2 ∧
    (clearGeneratedRefs "gen-" nestedRefs).1[0]?.bind (Tree.valueAt? · []) =
      some { ref := "", name := "app" } ∧
    clearGeneratedRefs "gen-" (clearGeneratedRefs "gen-" nestedRefs).1 =
      ((clearGeneratedRefs "gen-" nestedRefs).1, 0) ∧
    clearGeneratedRefs "" nestedRefs = (nestedRefs, 0) := by
  obtain ⟨-, count, cleared, again, -, -⟩ := clearGeneratedRefs_strips "gen-" nestedRefs
  obtain ⟨-, -, -, -, unchangedIff, generatedIff⟩ := clearGeneratedRefs_strips "" nestedRefs
  refine ⟨count.trans (by decide), (cleared.details 0 []).trans rfl, again, ?_⟩
  exact unchangedIff.mpr (by decide)

-- The mark may reach into the delimiter, and the marker into the mark.
example : isGeneratedRef "a-auto--b" "a-auto--" = true := by decide
example : isGeneratedRef "a--b-auto" "a" = false := by decide
example : isGeneratedRef "a---auto" "a" = false := by decide

end Sbom.Conversion
