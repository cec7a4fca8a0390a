/-!
# Trees

A finite tree with ordered children. `preorder` is the reference view: a node comes before its
children, and children come in order. Visiting, counting, searching and changing are defined by their
own recursion and agree with that view.
-/

namespace Sbom

/-- A tree whose nodes carry values. -/
inductive Tree (α : Type) where
  /-- A node with its value and its children in order. -/
  | node (value : α) (children : List (Tree α))

namespace Tree

variable {α : Type}

/-- The value at the root. -/
def value : Tree α → α
  | node value _ => value

/-- The children of the root. -/
def children : Tree α → List (Tree α)
  | node _ children => children

/-- A tree without children. -/
def leaf (value : α) : Tree α :=
  node value []

instance [Inhabited α] : Inhabited (Tree α) := ⟨leaf default⟩

/-- The tree with its root value replaced. -/
def withValue (tree : Tree α) (value : α) : Tree α :=
  node value tree.children

/-- The tree with one more child, after the others. -/
def addChild (tree child : Tree α) : Tree α :=
  node tree.value (tree.children ++ [child])

mutual

/-- The subtrees of a tree in pre-order, the tree itself first. -/
def preorder : Tree α → List (Tree α)
  | node value children => node value children :: preorderAll children

/-- The subtrees of several trees, one tree after the other. -/
def preorderAll : List (Tree α) → List (Tree α)
  | [] => []
  | tree :: rest => preorder tree ++ preorderAll rest

end

mutual

/-- Shows every subtree of a tree to a visitor, the tree itself before its children. The visitor
hands a state on from one subtree to the next. -/
def visit {σ : Type} (visitor : σ → Tree α → σ) (state : σ) : Tree α → σ
  | node value children => visitAll visitor (visitor state (node value children)) children

/-- Shows every subtree of several trees to a visitor, one tree after the other. -/
def visitAll {σ : Type} (visitor : σ → Tree α → σ) (state : σ) : List (Tree α) → σ
  | [] => state
  | tree :: rest => visitAll visitor (visit visitor state tree) rest

end

mutual

/-- The number of nodes of a tree. -/
def size : Tree α → Nat
  | node _ children => 1 + sizeAll children

/-- The number of nodes of several trees. -/
def sizeAll : List (Tree α) → Nat
  | [] => 0
  | tree :: rest => size tree + sizeAll rest

end

mutual

/-- The first subtree in pre-order whose value satisfies a test. -/
def find? (test : α → Bool) : Tree α → Option (Tree α)
  | node value children =>
    if test value then some (node value children) else findAll? test children

/-- The first such subtree of several trees. -/
def findAll? (test : α → Bool) : List (Tree α) → Option (Tree α)
  | [] => none
  | tree :: rest =>
    match find? test tree with
    | some found => some found
    | none => findAll? test rest

end

mutual

/-- Whether some value in a tree satisfies a test. -/
def anyValue (test : α → Bool) : Tree α → Bool
  | node value children => test value || anyValueAll test children

/-- Whether some value in several trees satisfies a test. -/
def anyValueAll (test : α → Bool) : List (Tree α) → Bool
  | [] => false
  | tree :: rest => anyValue test tree || anyValueAll test rest

end

mutual

/-- The tree with every value replaced by its image. -/
def map (f : α → α) : Tree α → Tree α
  | node value children => node (f value) (mapAll f children)

/-- The trees with every value replaced by its image. -/
def mapAll (f : α → α) : List (Tree α) → List (Tree α)
  | [] => []
  | tree :: rest => map f tree :: mapAll f rest

end

/-- The values of a tree in pre-order. -/
def values (tree : Tree α) : List α :=
  tree.preorder.map value

/-- The values of several trees in pre-order. -/
def valuesAll (trees : List (Tree α)) : List α :=
  (preorderAll trees).map value

end Tree

end Sbom
