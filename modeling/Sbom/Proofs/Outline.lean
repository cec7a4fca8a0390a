import Sbom.Conversion.Mapping
import Sbom.CycloneDx.Bom
import Sbom.Graph.Document
import Sbom.Proofs.Forest.Tops

/-!
# Outlines of documents

An outline is what the edges of a document mean, by references alone: the root, which reference is
nested in which, and the dependency records. `Outline.ofEdges` makes it in one pass over the edges;
components take no part in it.

The pass follows every document. Whether a conversion succeeds, and what it then returns, is stated
against the outline elsewhere.
-/

namespace Sbom.Conversion

open CycloneDx (Component Dependency)
open Sbom.Graph (Document Edge Node)

/-- What the edges of a document mean, by references alone. -/
structure Outline where
  /-- The root. -/
  root : Option String := none
  /-- Which reference is nested in which. -/
  forest : Forest := []
  /-- The dependency records. -/
  dependencies : List Dependency := []

namespace Outline

/-- The targets of all dependency records. -/
def dependencyTargets (outline : Outline) : List String :=
  outline.dependencies.flatMap Dependency.dependsOn

/-- Whether a reference is the root, nested, or the target of a dependency. -/
def IsPlaced (outline : Outline) (id : String) : Prop :=
  outline.root = some id ∨ id ∈ outline.forest.contents ∨ id ∈ outline.dependencyTargets

instance (outline : Outline) (id : String) : Decidable (outline.IsPlaced id) :=
  inferInstanceAs (Decidable (_ ∨ _ ∨ _))

/-- Whether a reference can be nested in another one: it is not that one itself, not the root, and
not nested yet. -/
def Accepts (outline : Outline) (source target : String) : Prop :=
  target ≠ source ∧ outline.root ≠ some target ∧ target ∉ outline.forest.contents

instance (outline : Outline) (source target : String) :
    Decidable (outline.Accepts source target) :=
  inferInstanceAs (Decidable (_ ∧ _ ∧ _))

/-- Nests a reference in another one, if it can be. -/
def nest (source : String) (outline : Outline) (target : String) : Outline :=
  if outline.Accepts source target then
    { outline with forest := outline.forest ++ [⟨source, target⟩] }
  else outline

/-- Whether an edge has no effect because its source is placed and is not the root. -/
def Skips (outline : Outline) (edge : Edge) : Prop :=
  outline.IsPlaced edge.source ∧ outline.root ≠ some edge.source

instance (outline : Outline) (edge : Edge) : Decidable (outline.Skips edge) :=
  inferInstanceAs (Decidable (_ ∧ _))

/-- The outline after one more edge. -/
def follow (outline : Outline) (edge : Edge) : Outline :=
  if outline.Skips edge then outline
  else
    match edge.kind with
    | .contains => edge.targets.foldl (nest edge.source) outline
    | .dependsOn =>
      { outline with
        dependencies := outline.dependencies ++ [⟨edge.source, edge.targets.eraseDups⟩] }
    | _ => outline

/-- The outline of edges under a root. -/
def ofEdges (root : Option String) (edges : List Edge) : Outline :=
  edges.foldl follow { root }

/-- Nesting a reference that is accepted adds one containment. -/
theorem nest_of_accepts {outline : Outline} {source target : String}
    (accepts : outline.Accepts source target) :
    outline.nest source target =
      { outline with forest := outline.forest ++ [⟨source, target⟩] } :=
  if_pos accepts

theorem nest_of_not_accepts {outline : Outline} {source target : String}
    (refused : ¬ outline.Accepts source target) : outline.nest source target = outline :=
  if_neg refused

theorem follow_of_skips {outline : Outline} {edge : Edge} (skips : outline.Skips edge) :
    outline.follow edge = outline :=
  if_pos skips

theorem follow_of_contains {outline : Outline} {edge : Edge} (taken : ¬ outline.Skips edge)
    (kind : edge.kind = .contains) :
    outline.follow edge = edge.targets.foldl (nest edge.source) outline := by
  rw [follow, if_neg taken]
  simp only [kind]

theorem follow_of_dependsOn {outline : Outline} {edge : Edge} (taken : ¬ outline.Skips edge)
    (kind : edge.kind = .dependsOn) :
    outline.follow edge =
      { outline with
        dependencies := outline.dependencies ++ [⟨edge.source, edge.targets.eraseDups⟩] } := by
  rw [follow, if_neg taken]
  simp only [kind]

/-- An edge of any other kind leaves the outline as it is. -/
theorem follow_of_other {outline : Outline} {edge : Edge} (notContains : edge.kind ≠ .contains)
    (notDependsOn : edge.kind ≠ .dependsOn) : outline.follow edge = outline := by
  unfold follow
  split
  · rfl
  · split
    · exact absurd ‹_› notContains
    · exact absurd ‹_› notDependsOn
    · rfl

@[simp] theorem nest_root (outline : Outline) (source target : String) :
    (outline.nest source target).root = outline.root := by
  unfold nest
  split <;> rfl

@[simp] theorem nest_dependencies (outline : Outline) (source target : String) :
    (outline.nest source target).dependencies = outline.dependencies := by
  unfold nest
  split <;> rfl

/-- Nesting changes neither the root nor the dependency records. -/
theorem nestAll_frame (outline : Outline) (source : String) (targets : List String) :
    (targets.foldl (nest source) outline).root = outline.root ∧
      (targets.foldl (nest source) outline).dependencies = outline.dependencies := by
  induction targets generalizing outline with
  | nil => exact ⟨rfl, rfl⟩
  | cons target rest inductionHypothesis =>
      obtain ⟨root, dependencies⟩ := inductionHypothesis (outline.nest source target)
      exact ⟨root.trans (nest_root _ _ _), dependencies.trans (nest_dependencies _ _ _)⟩

/-- Nesting a reference keeps an orderly forest, and the container stays one that is not nested. -/
theorem nest_orderly {outline : Outline} {source : String} (target : String)
    (orderly : outline.forest.Orderly outline.root) (outer : source ∉ outline.forest.contents) :
    (outline.nest source target).forest.Orderly (outline.nest source target).root ∧
      source ∉ (outline.nest source target).forest.contents := by
  by_cases accepts : outline.Accepts source target
  · obtain ⟨proper, notRoot, fresh⟩ := accepts
    rw [nest_of_accepts ⟨proper, notRoot, fresh⟩]
    refine ⟨orderly.append outer fresh proper notRoot, ?_⟩
    rw [Forest.contents_append, List.mem_append, List.mem_singleton]
    exact fun nested => nested.elim outer (fun same => proper same.symm)
  · rw [nest_of_not_accepts accepts]
    exact ⟨orderly, outer⟩

/-- Nesting several references keeps an orderly forest. -/
theorem nestAll_orderly {outline : Outline} {source : String} (targets : List String)
    (orderly : outline.forest.Orderly outline.root) (outer : source ∉ outline.forest.contents) :
    (targets.foldl (nest source) outline).forest.Orderly
      (targets.foldl (nest source) outline).root := by
  induction targets generalizing outline with
  | nil => exact orderly
  | cons target rest inductionHypothesis =>
      obtain ⟨orderlyNext, outerNext⟩ := nest_orderly target orderly outer
      exact inductionHypothesis orderlyNext outerNext

/-- The source of an edge that is not skipped is not nested: the root never is, and no other placed
reference gets past the skip. -/
theorem source_not_nested {outline : Outline} {edge : Edge}
    (orderly : outline.forest.Orderly outline.root) (taken : ¬ outline.Skips edge) :
    edge.source ∉ outline.forest.contents := by
  intro nested
  apply taken
  refine ⟨.inr (.inl nested), fun isRoot => ?_⟩
  exact orderly.root_not_nested isRoot nested

/-- What an edge can do to an outline: nest its targets, add one dependency record, or nothing. -/
theorem follow_cases (outline : Outline) (edge : Edge) :
    outline.follow edge = outline ∨
    (¬ outline.Skips edge ∧ edge.kind = .contains ∧
      outline.follow edge = edge.targets.foldl (nest edge.source) outline) ∨
    (¬ outline.Skips edge ∧ edge.kind = .dependsOn ∧
      outline.follow edge = { outline with
        dependencies := outline.dependencies ++ [⟨edge.source, edge.targets.eraseDups⟩] }) := by
  by_cases skips : outline.Skips edge
  · exact .inl (follow_of_skips skips)
  · by_cases isContains : edge.kind = .contains
    · exact .inr (.inl ⟨skips, isContains, follow_of_contains skips isContains⟩)
    · by_cases isDependsOn : edge.kind = .dependsOn
      · exact .inr (.inr ⟨skips, isDependsOn, follow_of_dependsOn skips isDependsOn⟩)
      · exact .inl (follow_of_other isContains isDependsOn)

@[simp] theorem follow_root (outline : Outline) (edge : Edge) :
    (outline.follow edge).root = outline.root := by
  obtain same | ⟨_, _, nested⟩ | ⟨_, _, recorded⟩ := outline.follow_cases edge
  · rw [same]
  · rw [nested, (nestAll_frame _ _ _).1]
  · rw [recorded]

/-- An edge keeps an orderly forest. -/
theorem follow_orderly {outline : Outline} (edge : Edge)
    (orderly : outline.forest.Orderly outline.root) :
    (outline.follow edge).forest.Orderly (outline.follow edge).root := by
  obtain same | ⟨taken, _, nested⟩ | ⟨_, _, recorded⟩ := outline.follow_cases edge
  · rw [same]
    exact orderly
  · rw [nested]
    exact nestAll_orderly edge.targets orderly (source_not_nested orderly taken)
  · rw [recorded]
    exact orderly

/-- Edges keep the root and an orderly forest. -/
theorem followAll_orderly {outline : Outline} (edges : List Edge)
    (orderly : outline.forest.Orderly outline.root) :
    (edges.foldl follow outline).root = outline.root ∧
      (edges.foldl follow outline).forest.Orderly (edges.foldl follow outline).root := by
  induction edges generalizing outline with
  | nil => exact ⟨rfl, orderly⟩
  | cons edge rest inductionHypothesis =>
      obtain ⟨root, orderlyRest⟩ := inductionHypothesis (follow_orderly edge orderly)
      exact ⟨root.trans (follow_root _ _), orderlyRest⟩

/-- Every dependency record that edges add is the one of a dependency edge. -/
theorem followAll_dependencies {outline : Outline} (edges : List Edge) {dependency : Dependency}
    (member : dependency ∈ (edges.foldl follow outline).dependencies) :
    dependency ∈ outline.dependencies ∨
      ∃ edge ∈ edges, edge.kind = .dependsOn ∧
        dependency = ⟨edge.source, edge.targets.eraseDups⟩ := by
  induction edges generalizing outline with
  | nil => exact .inl member
  | cons edge rest inductionHypothesis =>
      rcases inductionHypothesis member with earlier | ⟨other, otherMember, isDependency⟩
      · obtain same | ⟨_, _, nested⟩ | ⟨_, kind, recorded⟩ := outline.follow_cases edge
        · rw [same] at earlier
          exact .inl earlier
        · rw [nested, (nestAll_frame _ _ _).2] at earlier
          exact .inl earlier
        · rw [recorded] at earlier
          rcases List.mem_append.mp earlier with before | last
          · exact .inl before
          · exact .inr ⟨edge, List.mem_cons_self, kind, List.mem_singleton.mp last⟩
      · exact .inr ⟨other, List.mem_cons_of_mem _ otherMember, isDependency⟩

/-- The outline of edges has the given root and an orderly forest, whatever the edges are. -/
theorem ofEdges_root_orderly (root : Option String) (edges : List Edge) :
    (ofEdges root edges).root = root ∧ (ofEdges root edges).forest.Orderly root := by
  have start : ({ root } : Outline).forest.Orderly ({ root } : Outline).root := .empty
  obtain ⟨sameRoot, orderly⟩ := followAll_orderly edges start
  rw [sameRoot] at orderly
  exact ⟨sameRoot, orderly⟩

end Outline

/-- The references of nodes, each at its first node. A node without an id has none. -/
def registeredIds (nodes : List Node) : List String :=
  ((nodes.map Node.id).filter fun id => id ≠ "").eraseDups

/-- The component that the first node with an id becomes. -/
def recordOf (nodes : List Node) (id : String) : Component :=
  match (nodes.find? fun node => node.id == id).bind mapNode with
  | some (component, _) => component
  | none => default

/-- The first declared root, if it is the id of a node. -/
def resolvedRoot (document : Document) : Option String :=
  document.nodeList.rootElements.head?.filter fun id =>
    id ∈ registeredIds document.nodeList.nodes

/-- The outline of a document. -/
def outlineOf (document : Document) : Outline :=
  .ofEdges (resolvedRoot document) document.nodeList.edges

/-- Keeping the first occurrences leaves no repetition. -/
private theorem nodup_eraseDups : (ids : List String) → ids.eraseDups.Nodup
  | [] => List.nodup_nil
  | id :: rest => by
    rw [List.eraseDups_cons, List.nodup_cons, List.mem_eraseDups]
    exact ⟨by simp, nodup_eraseDups _⟩
termination_by ids => ids.length
decreasing_by
  exact Nat.lt_succ_of_le (List.length_filter_le _ _)

/-- The references of nodes are distinct. -/
theorem nodup_registeredIds (nodes : List Node) : (registeredIds nodes).Nodup :=
  nodup_eraseDups _

/-- The references of nodes are their ids that are not empty. -/
theorem mem_registeredIds_iff {nodes : List Node} {id : String} :
    id ∈ registeredIds nodes ↔ id ≠ "" ∧ ∃ node ∈ nodes, node.id = id := by
  simp [registeredIds, List.mem_eraseDups, and_comm]

/-- A node with an id becomes its component and reports what that lacks; one without an id becomes
none. -/
theorem mapNode_eq_some_iff {node : Node} {component : Component} {report : Report} :
    mapNode node = some (component, report) ↔
      node.id ≠ "" ∧ mappedComponent node = component ∧ mappingReport node = report := by
  rw [mapNode]
  by_cases isEmpty : node.id = "" <;> simp [isEmpty]

/-- The first node with an id that is not empty becomes a component. -/
theorem recordOf_of_find? {nodes : List Node} {id : String} {node : Node}
    (found : nodes.find? (fun node => node.id == id) = some node) (notEmpty : id ≠ "") :
    recordOf nodes id = mappedComponent node := by
  have sameId : node.id = id := by simpa using List.find?_some found
  have mapped := mapNode_eq_some_iff.mpr ⟨sameId ▸ notEmpty, rfl, rfl⟩
  simp [recordOf, found, mapped]

/-- A reference has a first node. -/
theorem exists_find?_of_mem {nodes : List Node} {id : String} (member : id ∈ registeredIds nodes) :
    ∃ node, nodes.find? (fun node => node.id == id) = some node := by
  obtain ⟨_, node, nodeMember, sameId⟩ := mem_registeredIds_iff.mp member
  apply Option.isSome_iff_exists.mp
  exact List.find?_isSome.mpr ⟨node, nodeMember, by simp [sameId]⟩

/-- The component of a reference has that reference. -/
theorem recordOf_named (nodes : List Node) :
    Forest.Named (registeredIds nodes) (recordOf nodes) := by
  intro id member
  obtain ⟨node, found⟩ := exists_find?_of_mem member
  have sameId : node.id = id := by simpa using List.find?_some found
  rw [recordOf_of_find? found (mem_registeredIds_iff.mp member).1]
  exact sameId

/-- A resolved root is the id of a node. -/
theorem resolvedRoot_mem {document : Document} {id : String}
    (isRoot : resolvedRoot document = some id) :
    id ∈ registeredIds document.nodeList.nodes := by
  have := (Option.filter_eq_some_iff.mp isRoot).2
  simpa using this

end Sbom.Conversion
