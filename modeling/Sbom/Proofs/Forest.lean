import Mathlib.Data.List.Nodup
import Mathlib.Data.List.Perm.Basic
import Sbom.CycloneDx.Component
import Sbom.Proofs.Traversal

/-!
# Forests of references

A forest says which reference is nested in which, by references alone and in the order in which the
containments were accepted. `Forest.tree` unfolds a reference from the finished forest: its record
carries the unfolded contents. No component is copied before the forest is complete.

In an `Orderly` forest a reference gains nothing once it is nested. There the unfolding obeys its
own recursion equation (`Orderly.tree_eq`), and one more containment changes only the tree of its
container (`Orderly.tree_append`).
-/

namespace Sbom.Conversion

open CycloneDx (Component ComponentDetails)

/-- One reference nested in another one. -/
structure Containment where
  /-- The reference that contains the other one. -/
  container : String
  /-- The reference that is nested. -/
  content : String
deriving DecidableEq, Repr

/-- Accepted containments, in order of acceptance. -/
abbrev Forest := List Containment

namespace Forest

/-- The nested references, in order of acceptance. -/
def contents (forest : Forest) : List String :=
  forest.map Containment.content

/-- The references nested directly in one reference, in order of acceptance. -/
def contentsOf (forest : Forest) (id : String) : List String :=
  (forest.filter fun containment => containment.container = id).map Containment.content

/-- The component of a reference, its contents unfolded down to a depth. -/
def unfold (forest : Forest) (record : String → Component) : Nat → String → Component
  | 0, id => .leaf (record id).value
  | depth + 1, id =>
    .node (record id).value ((forest.contentsOf id).map (unfold forest record depth))

/-- The component of a reference with everything that the forest nests in it. No chain of contents
is longer than the forest. -/
def tree (forest : Forest) (record : String → Component) (id : String) : Component :=
  forest.unfold record forest.length id

/-- Following the containers of a reference up to one that is not nested itself. -/
inductive Outermost (forest : Forest) : String → String → Prop where
  /-- A reference that is not nested is its own end. -/
  | here {id : String} (free : id ∉ forest.contents) : Outermost forest id id
  /-- A nested reference has the end of its container. -/
  | above {id container top : String} (nested : ⟨container, id⟩ ∈ forest)
      (later : Outermost forest container top) : Outermost forest id top

/-- A forest in which no reference gains contents or a second container once it is nested, and the
root is not nested. -/
inductive Orderly (root : Option String) : Forest → Prop where
  /-- Nothing is nested. -/
  | empty : Orderly root []
  /-- A reference is nested in another one, both of them not nested before. -/
  | append {forest : Forest} {container content : String} (earlier : Orderly root forest)
      (outer : container ∉ forest.contents) (fresh : content ∉ forest.contents)
      (proper : content ≠ container) (notRoot : root ≠ some content) :
      Orderly root (forest ++ [⟨container, content⟩])

section Views

variable {forest : Forest} {container content id : String}

@[simp] theorem contents_append :
    contents (forest ++ [⟨container, content⟩]) = forest.contents ++ [content] := by
  simp [contents]

theorem contentsOf_append_self :
    contentsOf (forest ++ [⟨container, content⟩]) container =
      forest.contentsOf container ++ [content] := by
  simp [contentsOf]

theorem contentsOf_append_of_ne (other : id ≠ container) :
    contentsOf (forest ++ [⟨container, content⟩]) id = forest.contentsOf id := by
  simp [contentsOf, Ne.symm other]

theorem mem_contentsOf_iff : content ∈ forest.contentsOf id ↔ ⟨id, content⟩ ∈ forest := by
  simp only [contentsOf, List.mem_map, List.mem_filter, decide_eq_true_eq]
  constructor
  · rintro ⟨containment, ⟨member, rfl⟩, rfl⟩
    exact member
  · intro member
    exact ⟨⟨id, content⟩, ⟨member, rfl⟩, rfl⟩

theorem mem_contents_of_mem (member : ⟨container, content⟩ ∈ forest) :
    content ∈ forest.contents :=
  List.mem_map_of_mem member

/-- What is nested in a reference is nested. -/
theorem mem_contents_of_mem_contentsOf (member : content ∈ forest.contentsOf id) :
    content ∈ forest.contents :=
  mem_contents_of_mem (mem_contentsOf_iff.mp member)

end Views

/-- A tree keeps the reference of its record. -/
theorem tree_ref (forest : Forest) (record : String → Component) (id : String) :
    (forest.tree record id).ref = (record id).ref := by
  rw [tree]
  cases forest.length <;> rfl

namespace Orderly

variable {root : Option String} {forest : Forest} {container content id : String}
  {record : String → Component}

/-- The root is not nested. -/
theorem root_not_nested (orderly : Orderly root forest) (isRoot : root = some id) :
    id ∉ forest.contents := by
  induction orderly with
  | empty => simp [contents]
  | append _ _ _ _ notRoot inductionHypothesis =>
      rw [contents_append, List.mem_append, List.mem_singleton]
      rintro (earlier | rfl)
      · exact inductionHypothesis earlier
      · exact notRoot isRoot

/-- No reference is nested twice. -/
theorem nodup_contents (orderly : Orderly root forest) : forest.contents.Nodup := by
  induction orderly with
  | empty => simp [contents]
  | append _ _ fresh _ _ inductionHypothesis =>
      rw [contents_append, List.perm_append_comm.nodup_iff]
      exact List.nodup_cons.mpr ⟨fresh, inductionHypothesis⟩

/-- A nested reference has one container. -/
theorem container_unique (orderly : Orderly root forest) {other : String}
    (nested : ⟨container, id⟩ ∈ forest) (nestedToo : ⟨other, id⟩ ∈ forest) : container = other :=
  congrArg Containment.container
    (List.inj_on_of_nodup_map orderly.nodup_contents nested nestedToo rfl)

/-- A reference that is not nested yet keeps away from the trees of all others: unfolding another
reference does not see a containment added to it. -/
theorem unfold_append_of_ne (outer : container ∉ forest.contents) (depth : Nat)
    (other : id ≠ container) :
    unfold (forest ++ [⟨container, content⟩]) record depth id =
      forest.unfold record depth id := by
  induction depth generalizing id with
  | zero => rfl
  | succ depth inductionHypothesis =>
      rw [unfold, unfold, contentsOf_append_of_ne other]
      congr 1
      apply List.map_congr_left
      intro member isMember
      apply inductionHypothesis
      rintro rfl
      exact outer (mem_contents_of_mem_contentsOf isMember)

/-- Depths beyond the length of the forest add nothing. -/
theorem unfold_of_length_le (orderly : Orderly root forest) {depth : Nat}
    (enough : forest.length ≤ depth) :
    forest.unfold record depth id = forest.tree record id := by
  induction orderly generalizing depth id with
  | empty => cases depth <;> rfl
  | @append forest container content earlier outer fresh proper notRoot inductionHypothesis =>
      obtain ⟨depth, rfl⟩ : ∃ smaller, depth = smaller + 1 := by
        cases depth with
        | zero => simp at enough
        | succ smaller => exact ⟨smaller, rfl⟩
      have enoughBefore : forest.length ≤ depth := by simpa using enough
      have others : ∀ depth, forest.length ≤ depth → ∀ other ≠ container,
          unfold (forest ++ [⟨container, content⟩]) record depth other =
            forest.tree record other := by
        intro depth enough other different
        rw [unfold_append_of_ne outer depth different, inductionHypothesis enough]
      rw [tree, List.length_append, List.length_singleton, unfold, unfold]
      congr 1
      apply List.map_congr_left
      intro member isMember
      have different : member ≠ container := by
        rintro rfl
        have nested := mem_contents_of_mem_contentsOf isMember
        rw [contents_append, List.mem_append, List.mem_singleton] at nested
        exact nested.elim outer (fun same => proper same.symm)
      rw [others depth enoughBefore member different,
        others forest.length (Nat.le_refl _) member different]

/-- The tree of a reference is its record with the trees of its contents. -/
theorem tree_eq (orderly : Orderly root forest) (id : String) :
    forest.tree record id =
      .node (record id).value ((forest.contentsOf id).map (forest.tree record)) := by
  rw [← orderly.unfold_of_length_le (Nat.le_succ forest.length), unfold]
  rfl

/-- One more containment attaches the tree of its content to the tree of its container and changes
no other tree. -/
theorem tree_append (orderly : Orderly root forest) (outer : container ∉ forest.contents)
    (fresh : content ∉ forest.contents) (proper : content ≠ container)
    (notRoot : root ≠ some content) :
    tree (forest ++ [⟨container, content⟩]) record id =
      if id = container then
        (forest.tree record container).addChild (forest.tree record content)
      else forest.tree record id := by
  have extended : Orderly root (forest ++ [⟨container, content⟩]) :=
    orderly.append outer fresh proper notRoot
  have others : ∀ other ≠ container,
      tree (forest ++ [⟨container, content⟩]) record other = forest.tree record other := by
    intro other different
    rw [tree, unfold_append_of_ne outer _ different,
      orderly.unfold_of_length_le (by simp)]
  by_cases same : id = container
  · subst same
    have inside : ∀ member ∈ forest.contentsOf id,
        tree (forest ++ [⟨id, content⟩]) record member = forest.tree record member := by
      intro member isMember
      apply others
      rintro rfl
      exact outer (mem_contents_of_mem_contentsOf isMember)
    rw [if_pos rfl, extended.tree_eq, contentsOf_append_self, List.map_append,
      List.map_congr_left inside, List.map_singleton, others content proper, orderly.tree_eq id]
    rfl
  · rw [if_neg same, others id same]

/-- Containment has no cycles: what holds of a reference whenever it holds of its contents holds of
every reference. -/
theorem contents_induction (orderly : Orderly root forest) {motive : String → Prop}
    (step : ∀ id, (∀ member ∈ forest.contentsOf id, motive member) → motive id) (id : String) :
    motive id := by
  have accessible : ∀ id, Acc (fun member id => member ∈ forest.contentsOf id) id := by
    clear step id
    induction orderly with
    | empty => exact fun id => ⟨id, fun member isMember => by simp [contentsOf] at isMember⟩
    | @append forest container content earlier outer fresh proper notRoot inductionHypothesis =>
        have others : ∀ id ≠ container,
            Acc (fun member id => member ∈ contentsOf (forest ++ [⟨container, content⟩]) id) id := by
          intro id different
          induction inductionHypothesis id with
          | intro id _ accessibleMembers =>
              refine ⟨id, fun member isMember => ?_⟩
              rw [contentsOf_append_of_ne different] at isMember
              apply accessibleMembers member isMember
              rintro rfl
              exact outer (mem_contents_of_mem_contentsOf isMember)
        intro id
        by_cases different : id = container
        · subst different
          refine ⟨id, fun member isMember => others member ?_⟩
          rintro rfl
          rw [contentsOf_append_self, List.mem_append, List.mem_singleton] at isMember
          exact isMember.elim (fun nested => outer (mem_contents_of_mem_contentsOf nested))
            (fun same => proper same.symm)
        · exact others id different
  induction accessible id with
  | intro id _ inductionHypothesis => exact step id inductionHypothesis

end Orderly

end Forest

end Sbom.Conversion
