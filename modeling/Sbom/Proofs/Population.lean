import Sbom.Conversion.Convert
import Sbom.Proofs.Resolution

/-!
# The registry before the edges

Registering nodes in order leaves the component of the first node with each id, and resolving the
root places the first declared root if it is one of them. The registry then represents the outline
without edges.
-/

namespace Sbom.Conversion

open CycloneDx (Component)
open Sbom.Graph (Document Node)

/-- The references of nodes after one more node. -/
theorem registeredIds_append (nodes : List Node) (node : Node) :
    registeredIds (nodes ++ [node]) =
      if node.id = "" ∨ node.id ∈ registeredIds nodes then registeredIds nodes
      else registeredIds nodes ++ [node.id] := by
  have known : node.id ≠ "" → (node.id ∈ registeredIds nodes ↔ node.id ∈ nodes.map Node.id) := by
    intro notEmpty
    rw [mem_registeredIds_iff, List.mem_map]
    exact and_iff_right notEmpty
  unfold registeredIds at known ⊢
  rw [List.map_append, List.filter_append, List.eraseDups_append]
  by_cases isEmpty : node.id = ""
  · simp [isEmpty, List.removeAll]
  · by_cases isKnown : node.id ∈ nodes.map Node.id
    · rw [if_pos (.inr ((known isEmpty).mpr isKnown))]
      simp [isEmpty, List.removeAll, List.mem_map.mp isKnown]
    · rw [if_neg (not_or.mpr ⟨isEmpty, fun member => isKnown ((known isEmpty).mp member)⟩)]
      have unknown : ¬ ∃ other ∈ nodes, other.id = node.id := fun found =>
        isKnown (List.mem_map.mpr found)
      simp [isEmpty, List.removeAll, unknown, List.eraseDups_cons]

/-- A reference keeps its first node when a node is added. -/
theorem recordOf_append_of_mem {nodes : List Node} {id : String} (node : Node)
    (member : id ∈ registeredIds nodes) : recordOf (nodes ++ [node]) id = recordOf nodes id := by
  obtain ⟨first, found⟩ := exists_find?_of_mem member
  have notEmpty := (mem_registeredIds_iff.mp member).1
  rw [recordOf_of_find? found notEmpty]
  exact recordOf_of_find? (by rw [List.find?_append, found]; rfl) notEmpty

/-- What registering a node does and reports: a node without an id is skipped, and one whose id is
taken is not kept. -/
theorem registerNode_eq (index : Nat) (node : Node) (registry : Registry) :
    registerNode index node registry =
      if node.id = "" then (registry, [unmappableNode index node])
      else if registry.contains node.id then
        (registry, mappingReport node ++ [duplicateNode index node])
      else ({ registry with records := registry.records ++ [mappedComponent node] },
        mappingReport node) := by
  by_cases isEmpty : node.id = ""
  · simp [registerNode, mapNode, isEmpty]
  · have sameRef : (mappedComponent node).ref = node.id := rfl
    have mapped := mapNode_eq_some_iff.mpr ⟨isEmpty, rfl, rfl⟩
    simp only [registerNode, mapped, Registry.register, sameRef, if_neg isEmpty]
    cases registry.contains node.id <;> rfl

/-- Nodes are registered one after the other, each adding to the report. -/
theorem registerNodesFrom_cons_eq_ok_iff {interrupt : Interrupt} {index : Nat} {node : Node}
    {rest : List Node} {registry final : Registry} {report : Report} :
    registerNodesFrom interrupt index (node :: rest) registry = .ok (final, report) ↔
      interrupt.check "registry population" = .ok () ∧ ∃ later,
        registerNodesFrom interrupt (index + 1) rest (registerNode index node registry).1 =
          .ok (final, later) ∧
        report = (registerNode index node registry).2 ++ later := by
  rw [registerNodesFrom]
  cases interrupt.check "registry population" with
  | error failure => simp [bind, Except.bind]
  | ok _ =>
      cases result : registerNodesFrom interrupt (index + 1) rest
          (registerNode index node registry).1 with
      | error failure => simp [result, bind, Except.bind]
      | ok population =>
          obtain ⟨last, later⟩ := population
          simp [result, bind, Except.bind, pure, Except.pure, eq_comm]

/-- Nodes that come after others are registered after them, and report after them. -/
theorem registerNodesFrom_append_eq_ok {interrupt : Interrupt} {index : Nat} {after : List Node}
    (before : List Node) {registry final : Registry} {report : Report}
    (succeeds : registerNodesFrom interrupt index (before ++ after) registry =
      .ok (final, report)) :
    ∃ middle earlier later,
      registerNodesFrom interrupt index before registry = .ok (middle, earlier) ∧
      registerNodesFrom interrupt (index + before.length) after middle = .ok (final, later) ∧
      report = earlier ++ later := by
  induction before generalizing index registry report with
  | nil => exact ⟨registry, [], report, rfl, succeeds, rfl⟩
  | cons node rest inductionHypothesis =>
      obtain ⟨checked, _, succeedsLater, rfl⟩ := registerNodesFrom_cons_eq_ok_iff.mp succeeds
      obtain ⟨middle, earlier, later, first, last, rfl⟩ := inductionHypothesis succeedsLater
      refine ⟨middle, _, later, registerNodesFrom_cons_eq_ok_iff.mpr ⟨checked, _, first, rfl⟩, ?_,
        (List.append_assoc _ _ _).symm⟩
      rw [List.length_cons, ← Nat.add_assoc, Nat.add_right_comm]
      exact last

/-- A registry that holds the first component of every reference of the nodes, and no placement. -/
structure Populated (nodes : List Node) (registry : Registry) : Prop where
  records : registry.records = (registeredIds nodes).map (recordOf nodes)
  placements : registry.placements = []
  rootId : registry.rootId = none

namespace Populated

variable {nodes : List Node} {registry : Registry}

theorem contains_iff (populated : Populated nodes registry) {id : String} :
    registry.contains id = true ↔ id ∈ registeredIds nodes :=
  Registry.contains_iff_of_records populated.records (recordOf_named nodes)

/-- Looking up a reference gives the component of its first node. -/
theorem record?_eq (populated : Populated nodes registry) (id : String) :
    registry.record? id = if id ∈ registeredIds nodes then some (recordOf nodes id) else none := by
  by_cases isKnown : id ∈ registeredIds nodes
  · rw [if_pos isKnown]
    exact Registry.record?_of_records populated.records (recordOf_named nodes) isKnown
  · rw [if_neg isKnown, Registry.record?, List.find?_eq_none]
    intro component member sameRef
    apply isKnown
    rw [← populated.contains_iff, Registry.contains_iff]
    exact List.mem_map.mpr ⟨component, member, by simpa using sameRef⟩

/-- Nothing is registered at the start. -/
theorem empty : Populated [] {} :=
  ⟨rfl, rfl, rfl⟩

/-- Registering one more node. -/
theorem registerNode (populated : Populated nodes registry) (index : Nat) (node : Node) :
    Populated (nodes ++ [node]) (registerNode index node registry).1 := by
  have earlier : (registeredIds nodes).map (recordOf (nodes ++ [node])) =
      (registeredIds nodes).map (recordOf nodes) :=
    List.map_congr_left fun id member => recordOf_append_of_mem node member
  rw [registerNode_eq, if_congr Iff.rfl rfl (if_congr populated.contains_iff rfl rfl)]
  by_cases isEmpty : node.id = ""
  · rw [if_pos isEmpty]
    refine ⟨?_, populated.placements, populated.rootId⟩
    rw [registeredIds_append, if_pos (.inl isEmpty), earlier, populated.records]
  · rw [if_neg isEmpty]
    by_cases isKnown : node.id ∈ registeredIds nodes
    · rw [if_pos isKnown]
      refine ⟨?_, populated.placements, populated.rootId⟩
      rw [registeredIds_append, if_pos (.inr isKnown), earlier, populated.records]
    · rw [if_neg isKnown]
      refine ⟨?_, populated.placements, populated.rootId⟩
      have isFirst : (nodes ++ [node]).find? (fun other => other.id == node.id) = some node := by
        have noEarlier : nodes.find? (fun other => other.id == node.id) = none := by
          rw [List.find?_eq_none]
          intro other member sameId
          exact isKnown (mem_registeredIds_iff.mpr
            ⟨isEmpty, other, member, by simpa using sameId⟩)
        rw [List.find?_append, noEarlier]
        simp
      rw [registeredIds_append, if_neg (not_or.mpr ⟨isEmpty, isKnown⟩), List.map_append, earlier,
        populated.records, List.map_singleton, recordOf_of_find? isFirst isEmpty]

/-- Registering nodes in order. -/
theorem registerNodesFrom (populated : Populated nodes registry) {interrupt : Interrupt}
    {index : Nat} (added : List Node) {final : Registry} {report : Report}
    (succeeds : registerNodesFrom interrupt index added registry = .ok (final, report)) :
    Populated (nodes ++ added) final := by
  induction added generalizing nodes registry index final report with
  | nil =>
      cases succeeds
      simpa using populated
  | cons node rest inductionHypothesis =>
      obtain ⟨_, _, later, _⟩ := registerNodesFrom_cons_eq_ok_iff.mp succeeds
      simpa using inductionHypothesis (populated.registerNode index node) later

end Populated

/-- Registering all nodes of a document. -/
theorem registerNodes_populated {interrupt : Interrupt} {nodes : List Node} {registry : Registry}
    {report : Report} (succeeds : registerNodes interrupt nodes = .ok (registry, report)) :
    Populated nodes registry :=
  Populated.empty.registerNodesFrom nodes succeeds

/-- Every component of a node is without children. -/
theorem recordOf_eq_leaf (nodes : List Node) (id : String) :
    recordOf nodes id = .leaf (recordOf nodes id).value := by
  unfold recordOf
  split
  case h_1 component report found =>
    obtain ⟨node, _, mapped⟩ := Option.bind_eq_some_iff.mp found
    obtain ⟨_, rfl, _⟩ := mapNode_eq_some_iff.mp mapped
    rfl
  case h_2 => rfl

/-- A populated registry represents the outline without a root and without edges. -/
theorem Populated.represents {nodes : List Node} {registry : Registry}
    (populated : Populated nodes registry) :
    Represents (registeredIds nodes) (recordOf nodes) {} registry where
  orderly := .empty
  within := by simp [Forest.Within]
  dependenciesWithin := by simp
  rootId := populated.rootId
  placements := by
    intro id
    simp [Registry.placement?, populated.placements, Outline.placement?, Forest.contents,
      Outline.dependencyTargets]
  records := by
    rw [populated.records]
    apply List.map_congr_left
    intro id _
    exact recordOf_eq_leaf nodes id

/-- Making a registered reference the root before the edges are resolved. -/
theorem Populated.setRoot_represents {nodes : List Node} {registry : Registry}
    (populated : Populated nodes registry) (id : String) :
    Represents (registeredIds nodes) (recordOf nodes) { root := some id }
      (registry.setRoot id) where
  orderly := .empty
  within := by simp [Forest.Within]
  dependenciesWithin := by simp
  rootId := rfl
  placements := by
    intro other
    have unplaced : ∀ other, registry.placement? other = none := by
      simp [Registry.placement?, populated.placements]
    have placed : (registry.setRoot id).placement? other =
        (registry.place id .root).1.placement? other := rfl
    rw [placed, Registry.placement?_place, unplaced, unplaced]
    simp [Registry.mayReplace, Outline.placement?, Forest.contents, Outline.dependencyTargets,
      eq_comm]
  records := by
    have kept : (registry.setRoot id).records = (registry.place id .root).1.records := rfl
    rw [kept, Registry.place_records]
    exact populated.represents.records

/-- Resolving the root of a populated registry. The registry then represents the outline without
edges, and the resolved component is the one of the resolved root. -/
theorem resolveRoot_represents {document : Document} {registry : Registry}
    (populated : Populated document.nodeList.nodes registry) :
    Represents (registeredIds document.nodeList.nodes) (recordOf document.nodeList.nodes)
        { root := resolvedRoot document }
        (resolveRoot registry document.nodeList.rootElements).1 ∧
      (resolveRoot registry document.nodeList.rootElements).2.1 =
        (resolvedRoot document).map (recordOf document.nodeList.nodes) := by
  unfold resolveRoot resolvedRoot
  cases document.nodeList.rootElements with
  | nil => exact ⟨populated.represents, rfl⟩
  | cons first extras =>
      by_cases isKnown : first ∈ registeredIds document.nodeList.nodes
      · have found : registry.record? first = some (recordOf document.nodeList.nodes first) :=
          (populated.record?_eq first).trans (if_pos isKnown)
        simp only [found, List.head?_cons, Option.filter_some, isKnown, decide_true, if_true,
          Option.map_some, and_true]
        exact populated.setRoot_represents first
      · have missing : registry.record? first = none := by
          rw [populated.record?_eq, if_neg isKnown]
        simp only [missing, List.head?_cons, Option.filter_some, isKnown, decide_false,
          Bool.false_eq_true, if_false, Option.map_none, and_true]
        exact populated.represents

end Sbom.Conversion
