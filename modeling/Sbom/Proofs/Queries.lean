import Mathlib.Algebra.Ring.Nat
import Mathlib.Data.List.Sort
import Sbom.CycloneDx.Bom
import Sbom.Proofs.Traversal

/-!
# Queries over components

A walk lists the subtrees of some trees. What it has to list is said by paths of child positions
alone: what stands at each path, once, in the lexicographic order of the paths, so that a node comes
before its children and a child before its later siblings. `IsWalk` says this, and the pre-order is
the only list with this property. Visiting, counting and searching have their own recursions; each
is what the same operation on a list does to the walk.
-/

namespace Sbom.Tree

variable {α σ : Type}

section Operations

mutual

/-- A visitor is shown the subtrees of a tree in pre-order. -/
theorem visit_eq_foldl (visitor : σ → Tree α → σ) (state : σ) :
    (tree : Tree α) → tree.visit visitor state = tree.preorder.foldl visitor state
  | node value children => by
    rw [visit, preorder_node, List.foldl_cons, visitAll_eq_foldl visitor _ children]

theorem visitAll_eq_foldl (visitor : σ → Tree α → σ) (state : σ) :
    (trees : List (Tree α)) → visitAll visitor state trees = (preorderAll trees).foldl visitor state
  | [] => rfl
  | tree :: rest => by
    rw [visitAll, preorderAll_cons, List.foldl_append, visit_eq_foldl visitor state tree,
      visitAll_eq_foldl visitor _ rest]

end

mutual

/-- A tree has as many nodes as subtrees in pre-order. -/
theorem size_eq_length : (tree : Tree α) → tree.size = tree.preorder.length
  | node value children => by
    rw [size, preorder_node, List.length_cons, sizeAll_eq_length children, Nat.add_comm]

theorem sizeAll_eq_length : (trees : List (Tree α)) → sizeAll trees = (preorderAll trees).length
  | [] => rfl
  | tree :: rest => by
    rw [sizeAll, preorderAll_cons, List.length_append, size_eq_length tree, sizeAll_eq_length rest]

end

/-- Several trees have as many nodes as each of them together. -/
theorem sizeAll_eq_sum (trees : List (Tree α)) : sizeAll trees = (trees.map size).sum := by
  induction trees with
  | nil => rfl
  | cons tree rest inductionHypothesis =>
      rw [sizeAll, inductionHypothesis, List.map_cons, List.sum_cons]

mutual

/-- A search in a tree finds the first subtree in pre-order whose value passes the test. -/
theorem find?_eq_find?_preorder (test : α → Bool) : (tree : Tree α) →
    tree.find? test = tree.preorder.find? fun subtree => test subtree.value
  | node value children => by
    rw [find?, preorder_node, List.find?_cons, findAll?_eq_find?_preorder test children]
    cases passes : test value <;> simp [Tree.value, passes]

theorem findAll?_eq_find?_preorder (test : α → Bool) : (trees : List (Tree α)) →
    findAll? test trees = (preorderAll trees).find? fun subtree => test subtree.value
  | [] => rfl
  | tree :: rest => by
    rw [findAll?, preorderAll_cons, List.find?_append, find?_eq_find?_preorder test tree,
      findAll?_eq_find?_preorder test rest]
    cases tree.preorder.find? fun subtree => test subtree.value <;> rfl

end

end Operations

section Paths

/-- The subtree at the end of a path of child positions. -/
def subtreeAt? (tree : Tree α) : List Nat → Option (Tree α)
  | [] => some tree
  | index :: path => tree.children[index]?.bind fun child => child.subtreeAt? path

/-- The subtree of several trees at the end of a path that starts with the position of a tree. -/
def subtreeOf? (trees : List (Tree α)) : List Nat → Option (Tree α)
  | [] => none
  | index :: path => trees[index]?.bind fun tree => tree.subtreeAt? path

/-- Whether a list holds the subtrees of some trees as a walk in pre-order has to: one entry for
each path that leads to a subtree, in the order of the paths. -/
def IsWalk (trees listed : List (Tree α)) : Prop :=
  ∃ paths : List (List Nat), paths.Pairwise (· < ·) ∧
    (∀ path, path ∈ paths ↔ (subtreeOf? trees path).isSome) ∧
    listed.map some = paths.map (subtreeOf? trees)

/-- There is only one walk. -/
theorem IsWalk.unique {trees listed other : List (Tree α)} (isWalk : IsWalk trees listed)
    (otherIsWalk : IsWalk trees other) : listed = other := by
  obtain ⟨paths, ascending, complete, atPaths⟩ := isWalk
  obtain ⟨otherPaths, otherAscending, otherComplete, atOtherPaths⟩ := otherIsWalk
  have samePaths : paths = otherPaths :=
    ascending.eq_of_mem_iff otherAscending fun path => by rw [complete, otherComplete]
  apply List.map_injective_iff.mpr (Option.some_injective _)
  rw [atPaths, atOtherPaths, samePaths]

mutual

/-- The subtrees of a tree in pre-order with their paths. -/
def located : Tree α → List (List Nat × Tree α)
  | node value children => ([], node value children) :: locatedFrom 0 children

/-- The subtrees of several trees in pre-order with their paths, the first tree having the given
position. -/
def locatedFrom (index : Nat) : List (Tree α) → List (List Nat × Tree α)
  | [] => []
  | tree :: rest =>
    tree.located.map (fun entry => (index :: entry.1, entry.2)) ++ locatedFrom (index + 1) rest

end

mutual

/-- Without their paths, the located subtrees are the pre-order. -/
theorem map_snd_located : (tree : Tree α) → tree.located.map Prod.snd = tree.preorder
  | node value children => by
    rw [located, List.map_cons, map_snd_locatedFrom 0 children, preorder_node]

theorem map_snd_locatedFrom (index : Nat) : (trees : List (Tree α)) →
    (locatedFrom index trees).map Prod.snd = preorderAll trees
  | [] => rfl
  | tree :: rest => by
    rw [locatedFrom, List.map_append, List.map_map, map_snd_locatedFrom (index + 1) rest,
      preorderAll_cons, ← map_snd_located tree]
    rfl

end

mutual

/-- A subtree is located at a path exactly if the path leads to it. -/
theorem mem_located_iff {path : List Nat} {subtree : Tree α} : (tree : Tree α) →
    ((path, subtree) ∈ tree.located ↔ tree.subtreeAt? path = some subtree)
  | node value children => by
    rw [located, List.mem_cons, mem_locatedFrom_iff 0 children]
    cases path with
    | nil => simp [subtreeAt?, eq_comm]
    | cons position path => simp [subtreeAt?, subtreeOf?, Tree.children]

theorem mem_locatedFrom_iff {path : List Nat} {subtree : Tree α} (index : Nat) :
    (trees : List (Tree α)) → ((path, subtree) ∈ locatedFrom index trees ↔
      ∃ position rest, path = (index + position) :: rest ∧
        subtreeOf? trees (position :: rest) = some subtree)
  | [] => by simp [locatedFrom, subtreeOf?]
  | tree :: others => by
    rw [locatedFrom, List.mem_append, mem_locatedFrom_iff (index + 1) others]
    constructor
    · rintro (first | ⟨position, rest, rfl, found⟩)
      · obtain ⟨⟨below, _⟩, member, same⟩ := List.mem_map.mp first
        cases same
        exact ⟨0, below, rfl, (mem_located_iff tree).mp member⟩
      · exact ⟨position + 1, rest, by rw [Nat.add_assoc, Nat.add_comm 1], found⟩
    · rintro ⟨position, rest, rfl, found⟩
      cases position with
      | zero =>
          have located := (mem_located_iff tree).mpr found
          exact .inl (List.mem_map.mpr ⟨(rest, subtree), located, rfl⟩)
      | succ position =>
          exact .inr ⟨position, rest, by rw [Nat.add_assoc, Nat.add_comm 1], found⟩

end

mutual

/-- The paths of the located subtrees ascend. -/
theorem pairwise_located : (tree : Tree α) → (tree.located.map Prod.fst).Pairwise (· < ·)
  | node value children => by
    rw [located, List.map_cons, List.pairwise_cons]
    refine ⟨fun path member => ?_, pairwise_locatedFrom 0 children⟩
    obtain ⟨⟨path, subtree⟩, located, rfl⟩ := List.mem_map.mp member
    obtain ⟨position, rest, rfl, -⟩ := (mem_locatedFrom_iff 0 children).mp located
    exact List.nil_lt_cons _ _

theorem pairwise_locatedFrom (index : Nat) : (trees : List (Tree α)) →
    ((locatedFrom index trees).map Prod.fst).Pairwise (· < ·)
  | [] => List.Pairwise.nil
  | tree :: rest => by
    rw [locatedFrom, List.map_append, List.pairwise_append]
    refine ⟨?_, pairwise_locatedFrom (index + 1) rest, ?_⟩
    · have below := pairwise_located tree
      rw [List.pairwise_map] at below
      rw [List.map_map, List.pairwise_map]
      exact below.imp fun {left right} ascends => List.cons_lt_cons_iff.mpr (.inr ⟨rfl, ascends⟩)
    · intro early isEarly late isLate
      obtain ⟨_, inFirst, rfl⟩ := List.mem_map.mp isEarly
      obtain ⟨entry, -, rfl⟩ := List.mem_map.mp inFirst
      obtain ⟨⟨_, _⟩, inRest, rfl⟩ := List.mem_map.mp isLate
      obtain ⟨position, path, rfl, -⟩ := (mem_locatedFrom_iff (index + 1) rest).mp inRest
      exact List.cons_lt_cons_iff.mpr (.inl (by omega))

end

/-- The pre-order of some trees is their walk. -/
theorem isWalk_preorderAll (trees : List (Tree α)) : IsWalk trees (preorderAll trees) := by
  have leadsTo : ∀ path subtree,
      (path, subtree) ∈ locatedFrom 0 trees ↔ subtreeOf? trees path = some subtree := by
    intro path subtree
    rw [mem_locatedFrom_iff]
    cases path with
    | nil => simp [subtreeOf?]
    | cons position rest => simp
  refine ⟨(locatedFrom 0 trees).map Prod.fst, pairwise_locatedFrom 0 trees, ?_, ?_⟩
  · intro path
    rw [Option.isSome_iff_exists, List.mem_map]
    constructor
    · rintro ⟨⟨path, subtree⟩, member, rfl⟩
      exact ⟨subtree, (leadsTo path subtree).mp member⟩
    · rintro ⟨subtree, found⟩
      exact ⟨(path, subtree), (leadsTo path subtree).mpr found, rfl⟩
  · rw [← map_snd_locatedFrom 0 trees, List.map_map, List.map_map]
    apply List.map_congr_left
    rintro ⟨path, subtree⟩ member
    exact ((leadsTo path subtree).mp member).symm

/-- The walk of some trees is their pre-order and nothing else. -/
theorem isWalk_iff {trees listed : List (Tree α)} :
    IsWalk trees listed ↔ listed = preorderAll trees := by
  constructor
  · intro isWalk
    exact isWalk.unique (isWalk_preorderAll trees)
  · rintro rfl
    exact isWalk_preorderAll trees

end Paths

end Sbom.Tree

namespace Sbom.CycloneDx

namespace Component

/-- A search for a reference finds the first component in pre-order that has it. -/
theorem findRef?_eq_find? (component : Component) (ref : String) :
    component.findRef? ref = component.preorder.find? (Component.ref · == ref) :=
  Tree.find?_eq_find?_preorder (fun details : ComponentDetails => details.ref == ref) component

end Component

namespace Bom

variable {σ : Type}

/-- A visitor is shown the components that the walk lists. -/
theorem visit_eq_foldl_walk (visitor : σ → Component → σ) (state : σ) (bom : Bom) :
    bom.visit visitor state = bom.walk.foldl visitor state := by
  rw [visit, walk, trees]
  cases bom.metadata.component with
  | none => exact Tree.visitAll_eq_foldl visitor state bom.components
  | some root =>
      dsimp only
      rw [Option.toList_some, List.singleton_append, Tree.preorderAll_cons, List.foldl_append,
        Tree.visit_eq_foldl, Tree.visitAll_eq_foldl]

/-- Counting on a visit gives the length of the walk. -/
theorem componentCount_eq_length (bom : Bom) : bom.componentCount = bom.walk.length := by
  have counted : ∀ (listed : List Component) (count : Nat),
      listed.foldl (fun count _ => count + 1) count = count + listed.length := by
    intro listed
    induction listed with
    | nil => exact fun count => rfl
    | cons component rest inductionHypothesis =>
        intro count
        rw [List.foldl_cons, inductionHypothesis, List.length_cons]
        omega
  rw [componentCount, visit_eq_foldl_walk, counted, Nat.zero_add]

/-- The search for a reference finds the first component of the walk that has it. -/
theorem findComponent?_eq_find? (bom : Bom) (ref : String) :
    bom.findComponent? ref = bom.walk.find? (Component.ref · == ref) :=
  Tree.findAll?_eq_find?_preorder (fun details : ComponentDetails => details.ref == ref) bom.trees

/-- All queries over the components of a document are about one walk. It lists the components of the
root tree and then those of each top-level tree, every one of them once and in pre-order. A visitor
is shown what it lists, the count is its length and the sum of the sizes of the trees, and the
search for a reference finds its first component with that reference. The same holds within each
component. -/
theorem queries_eq_walk (bom : Bom) :
    bom.walk = (bom.metadata.component.toList ++ bom.components).flatMap Tree.preorder ∧
    (∀ listed, Tree.IsWalk bom.trees listed ↔ listed = bom.walk) ∧
    (∀ {σ : Type} (visitor : σ → Component → σ) (state : σ),
      bom.visit visitor state = bom.walk.foldl visitor state) ∧
    bom.componentCount = bom.walk.length ∧
    bom.componentCount = (bom.trees.map Tree.size).sum ∧
    (∀ ref, bom.findComponent? ref = bom.walk.find? (Component.ref · == ref)) ∧
    (∀ ref, bom.findComponent? ref = none ↔ ∀ component ∈ bom.walk, component.ref ≠ ref) ∧
    ∀ component : Component,
      (∀ listed, Tree.IsWalk [component] listed ↔ listed = component.preorder) ∧
      (∀ {σ : Type} (visitor : σ → Component → σ) (state : σ),
        component.visit visitor state = component.preorder.foldl visitor state) ∧
      component.size = component.preorder.length ∧
      ∀ ref, component.findRef? ref = component.preorder.find? (Component.ref · == ref) := by
  have count := bom.componentCount_eq_length
  refine ⟨Tree.preorderAll_eq_flatMap _, fun listed => Tree.isWalk_iff,
    fun visitor state => visit_eq_foldl_walk visitor state bom, count, ?_,
    bom.findComponent?_eq_find?, ?_, ?_⟩
  · rw [count, walk, ← Tree.sizeAll_eq_length, Tree.sizeAll_eq_sum]
  · intro ref
    simp [findComponent?_eq_find?]
  · intro component
    refine ⟨fun listed => ?_, fun visitor state => Tree.visit_eq_foldl visitor state component,
      Tree.size_eq_length component, component.findRef?_eq_find?⟩
    rw [Tree.isWalk_iff, Tree.preorderAll_cons, Tree.preorderAll_nil, List.append_nil]

end Bom

end Sbom.CycloneDx
