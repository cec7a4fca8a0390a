import Sbom.Tree

/-!
# Values in pre-order

The values of a tree are listed by concatenation: a root before its children, and each child before
its later siblings. Attaching a child extends the list at its end, and replacing values replaces the
list pointwise; it changes nothing exactly when it keeps everything in the list. A search finds
nothing exactly when nothing in the list passes its test. Nothing here inspects what a tree carries.
-/

namespace Sbom.Tree

variable {α : Type}

@[simp] theorem preorderAll_nil : preorderAll ([] : List (Tree α)) = [] := rfl

@[simp] theorem preorderAll_cons (tree : Tree α) (rest : List (Tree α)) :
    preorderAll (tree :: rest) = tree.preorder ++ preorderAll rest := rfl

@[simp] theorem preorder_node (value : α) (children : List (Tree α)) :
    (node value children).preorder = node value children :: preorderAll children := rfl

@[simp] theorem valuesAll_nil : valuesAll ([] : List (Tree α)) = [] := rfl

@[simp] theorem valuesAll_cons (tree : Tree α) (rest : List (Tree α)) :
    valuesAll (tree :: rest) = tree.values ++ valuesAll rest := by
  simp [valuesAll, values]

@[simp] theorem values_node (value : α) (children : List (Tree α)) :
    (node value children).values = value :: valuesAll children := by
  simp [values, valuesAll, Tree.value]

/-- The values of several trees are those of each of them, in order. -/
theorem valuesAll_eq_flatMap (trees : List (Tree α)) : valuesAll trees = trees.flatMap values := by
  induction trees with
  | nil => rfl
  | cons tree rest inductionHypothesis => simp [inductionHypothesis]

/-- The subtrees of several trees are those of each of them, in order. -/
theorem preorderAll_eq_flatMap (trees : List (Tree α)) :
    preorderAll trees = trees.flatMap preorder := by
  induction trees with
  | nil => rfl
  | cons tree rest inductionHypothesis => simp [inductionHypothesis]

theorem valuesAll_append (left right : List (Tree α)) :
    valuesAll (left ++ right) = valuesAll left ++ valuesAll right := by
  simp [valuesAll_eq_flatMap]

/-- Every tree has its value at the root before the values of its children. -/
theorem values_eq (tree : Tree α) : tree.values = tree.value :: valuesAll tree.children := by
  cases tree with
  | node value children => exact values_node value children

/-- Every tree comes before the subtrees of its children. -/
theorem preorder_eq (tree : Tree α) : tree.preorder = tree :: preorderAll tree.children := by
  cases tree with
  | node value children => exact preorder_node value children

/-- A child attached after the others adds its values at the end. -/
theorem values_addChild (tree child : Tree α) :
    (tree.addChild child).values = tree.values ++ child.values := by
  rw [addChild, values_node, values_eq tree, valuesAll_append]
  simp

mutual

/-- Replacing the values of a tree replaces them in its list. -/
theorem values_map (f : α → α) : (tree : Tree α) → (tree.map f).values = tree.values.map f
  | node value children => by
    rw [map, values_node, values_node, valuesAll_mapAll f children, List.map_cons]

/-- Replacing the values of several trees replaces them in their list. -/
theorem valuesAll_mapAll (f : α → α) :
    (trees : List (Tree α)) → valuesAll (mapAll f trees) = (valuesAll trees).map f
  | [] => rfl
  | tree :: rest => by
    rw [mapAll, valuesAll_cons, valuesAll_cons, values_map f tree, valuesAll_mapAll f rest,
      List.map_append]

end

/-- Several trees are changed one by one. -/
theorem mapAll_eq_map (f : α → α) (trees : List (Tree α)) : mapAll f trees = trees.map (map f) := by
  induction trees with
  | nil => rfl
  | cons tree rest inductionHypothesis => rw [mapAll, inductionHypothesis, List.map_cons]

/-- The walk of several trees meets each of them. -/
theorem mem_preorderAll_of_mem {tree : Tree α} {trees : List (Tree α)} (member : tree ∈ trees) :
    tree ∈ preorderAll trees := by
  rw [preorderAll_eq_flatMap, List.mem_flatMap]
  exact ⟨tree, member, by rw [preorder_eq]; exact List.mem_cons_self⟩

section Children

variable {parent child : Tree α}

mutual

/-- The walk of a tree meets the children of all subtrees it meets. -/
theorem child_mem_preorder :
    (tree : Tree α) → parent ∈ tree.preorder → child ∈ parent.children → child ∈ tree.preorder
  | node value trees, isSubtree, isChild => by
    rw [preorder_node] at isSubtree ⊢
    rcases List.mem_cons.mp isSubtree with rfl | below
    · exact List.mem_cons_of_mem _ (mem_preorderAll_of_mem isChild)
    · exact List.mem_cons_of_mem _ (child_mem_preorderAll trees below isChild)

theorem child_mem_preorderAll : (trees : List (Tree α)) → parent ∈ preorderAll trees →
    child ∈ parent.children → child ∈ preorderAll trees
  | [], isSubtree, _ => absurd isSubtree List.not_mem_nil
  | tree :: rest, isSubtree, isChild => by
    rw [preorderAll_cons, List.mem_append] at isSubtree ⊢
    rcases isSubtree with first | later
    · exact .inl (child_mem_preorder tree first isChild)
    · exact .inr (child_mem_preorderAll rest later isChild)

end

end Children

mutual

/-- Replacing the values of a tree twice replaces them once, by the second images. -/
theorem map_map (f g : α → α) : (tree : Tree α) → (tree.map f).map g = tree.map (g ∘ f)
  | node value children => by
    rw [map, map, map, mapAll_mapAll f g children, Function.comp_apply]

theorem mapAll_mapAll (f g : α → α) :
    (trees : List (Tree α)) → mapAll g (mapAll f trees) = mapAll (g ∘ f) trees
  | [] => rfl
  | tree :: rest => by
    rw [mapAll, mapAll, mapAll, map_map f g tree, mapAll_mapAll f g rest]

end

mutual

/-- A search in a tree fails exactly when no value of it passes the test. -/
theorem find?_eq_none_iff (test : α → Bool) :
    (tree : Tree α) → (tree.find? test = none ↔ ∀ value ∈ tree.values, test value = false)
  | node value children => by
    rw [find?, values_node, List.forall_mem_cons, ← findAll?_eq_none_iff test children]
    cases test value <;> simp

/-- A search in several trees fails exactly when no value of them passes the test. -/
theorem findAll?_eq_none_iff (test : α → Bool) : (trees : List (Tree α)) →
    (findAll? test trees = none ↔ ∀ value ∈ valuesAll trees, test value = false)
  | [] => by simp [findAll?]
  | tree :: rest => by
    rw [findAll?, valuesAll_cons, List.forall_mem_append, ← find?_eq_none_iff test tree,
      ← findAll?_eq_none_iff test rest]
    cases tree.find? test <;> simp

end

mutual

/-- No value of a tree passes a test exactly when each fails it. -/
theorem anyValue_eq_false_iff (test : α → Bool) :
    (tree : Tree α) → (tree.anyValue test = false ↔ ∀ value ∈ tree.values, test value = false)
  | node value children => by
    rw [anyValue, values_node, List.forall_mem_cons, Bool.or_eq_false_iff,
      anyValueAll_eq_false_iff test children]

/-- No value of several trees passes a test exactly when each fails it. -/
theorem anyValueAll_eq_false_iff (test : α → Bool) : (trees : List (Tree α)) →
    (anyValueAll test trees = false ↔ ∀ value ∈ valuesAll trees, test value = false)
  | [] => by simp [anyValueAll]
  | tree :: rest => by
    rw [anyValueAll, valuesAll_cons, List.forall_mem_append, Bool.or_eq_false_iff,
      anyValue_eq_false_iff test tree, anyValueAll_eq_false_iff test rest]

end

mutual

/-- A tree stays as it is exactly when each of its values does. -/
theorem map_eq_self_iff (f : α → α) :
    (tree : Tree α) → (tree.map f = tree ↔ ∀ value ∈ tree.values, f value = value)
  | node value children => by
    rw [map, node.injEq, values_node, List.forall_mem_cons, mapAll_eq_self_iff f children]

/-- Trees stay as they are exactly when each of their values does. -/
theorem mapAll_eq_self_iff (f : α → α) : (trees : List (Tree α)) →
    (mapAll f trees = trees ↔ ∀ value ∈ valuesAll trees, f value = value)
  | [] => by simp [mapAll]
  | tree :: rest => by
    rw [mapAll, List.cons.injEq, valuesAll_cons, List.forall_mem_append, map_eq_self_iff f tree,
      mapAll_eq_self_iff f rest]

end

end Sbom.Tree
