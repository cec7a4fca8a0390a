import Mathlib.Data.List.Perm.Basic
import Sbom.Proofs.FatalFailure
import Sbom.Proofs.Locality
import Sbom.Proofs.Traversal

/-!
# The order of nodes

Nodes are looked up by their ids. When these are all different, the order of the nodes decides the
order in which components are registered and losses are reported, but no lookup can tell: the root,
the edges and every failure are the same for every order. The order is seen again only when what is
left is harvested, so it decides the order of the top level.
-/

namespace Sbom

open Sbom.Graph (Document Node)

namespace Graph

/-- Nodes that all have an id, each its own. -/
structure DistinctlyNamed (nodes : List Node) : Prop where
  named : ∀ node ∈ nodes, node.id ≠ ""
  distinct : (nodes.map Node.id).Nodup

theorem DistinctlyNamed.perm {nodes others : List Node} (named : DistinctlyNamed nodes)
    (order : others.Perm nodes) : DistinctlyNamed others where
  named node member := named.named node (order.mem_iff.mp member)
  distinct := (order.map Node.id).nodup_iff.mpr named.distinct

/-- The document with other nodes. -/
def Document.withNodes (document : Document) (nodes : List Node) : Document :=
  { document with nodeList := { document.nodeList with nodes } }

end Graph

namespace Conversion

open CycloneDx (Component)
open Sbom.Graph (DistinctlyNamed)
open Settings (Behavior)

/-- The tree of a node as a conversion emits it, with generated references cleared if the behaviour
asks for it. -/
def emittedTree (behavior : Behavior) (document : Document) (node : Node) : Component :=
  if behavior.clearGeneratedRefs then
    (treeOf document node.id).map (clearGeneratedRef behavior.generatedMark)
  else treeOf document node.id

/-- The trees of the nodes without a placement, in the order of the nodes. -/
def topLevelOf (behavior : Behavior) (document : Document) (nodes : List Node) : List Component :=
  (nodes.filter fun node => ¬ (outlineOf document).IsPlaced node.id).map
    (emittedTree behavior document)

/-- How the conversion of a document stands to the one with its nodes in another order. Everything
but the top level is the same, and the top level has the same trees, which each of the two lists in
the order of its nodes. -/
structure Converted.ReordersTo (behavior : Behavior) (document : Document) (nodes : List Node)
    (original reordered : Converted) : Prop where
  bom : reordered.bom = { original.bom with components := reordered.bom.components }
  inOrder : original.bom.components = topLevelOf behavior document document.nodeList.nodes
  inOtherOrder : reordered.bom.components = topLevelOf behavior document nodes
  components : reordered.bom.components.Perm original.bom.components
  report : reordered.report.Perm original.report

/-- Results that both fail, with the same failure, or both succeed and are related. -/
inductive Alike {α : Type} (related : α → α → Prop) :
    Except Failure α → Except Failure α → Prop where
  /-- Both fail with the same failure. -/
  | failed (failure : Failure) : Alike related (.error failure) (.error failure)
  /-- Both succeed. -/
  | succeeded {left right : α} (holds : related left right) : Alike related (.ok left) (.ok right)

namespace Alike

variable {α β : Type}

theorem of_eq {left right : Except Failure α} (same : left = right) :
    Alike (· = ·) left right := by
  rw [same]
  cases right with
  | error failure => exact .failed failure
  | ok value => exact .succeeded rfl

/-- What goes on alike after alike results ends alike. -/
theorem bind {related : α → α → Prop} {relatedLater : β → β → Prop}
    {left right : Except Failure α} {leftLater rightLater : α → Except Failure β}
    (alike : Alike related left right)
    (later : ∀ leftValue rightValue, related leftValue rightValue →
      Alike relatedLater (leftLater leftValue) (rightLater rightValue)) :
    Alike relatedLater (left >>= leftLater) (right >>= rightLater) := by
  cases alike with
  | failed failure => exact .failed failure
  | succeeded holds => exact later _ _ holds

/-- Alike results that succeed are related to what they are. -/
theorem withResults {related : α → α → Prop} {left right : Except Failure α}
    (alike : Alike related left right) :
    Alike (fun leftValue rightValue =>
      related leftValue rightValue ∧ left = .ok leftValue ∧ right = .ok rightValue) left right := by
  cases alike with
  | failed failure => exact .failed failure
  | succeeded holds => exact .succeeded ⟨holds, rfl, rfl⟩

/-- What is alike to a success succeeds. -/
theorem of_ok {related : α → α → Prop} {value : α} {right : Except Failure α}
    (alike : Alike related (.ok value) right) :
    ∃ other, right = .ok other ∧ related value other := by
  cases alike with
  | succeeded holds => exact ⟨_, rfl, holds⟩

end Alike

variable {nodes others : List Node} {interrupt : Interrupt} {document : Document}

/-- Distinct ids are all first occurrences. -/
theorem eraseDups_eq_self {ids : List String} (distinct : ids.Nodup) : ids.eraseDups = ids := by
  induction ids with
  | nil => rfl
  | cons id rest inductionHypothesis =>
      obtain ⟨fresh, distinctRest⟩ := List.nodup_cons.mp distinct
      have allOthers : rest.filter (fun other => !other == id) = rest := by
        rw [List.filter_eq_self]
        intro other member
        simpa using fun same : other = id => fresh (same ▸ member)
      rw [List.eraseDups_cons, allOthers, inductionHypothesis distinctRest]

/-- Every node with an id of its own is registered, in the order of the nodes. -/
theorem registeredIds_eq_map (named : DistinctlyNamed nodes) :
    registeredIds nodes = nodes.map Node.id := by
  have allNamed : (nodes.map Node.id).filter (fun id => id ≠ "") = nodes.map Node.id := by
    rw [List.filter_eq_self]
    intro id member
    obtain ⟨node, nodeMember, rfl⟩ := List.mem_map.mp member
    simpa using named.named node nodeMember
  rw [registeredIds, allNamed, eraseDups_eq_self named.distinct]

/-- The same ids are registered in every order. -/
theorem mem_registeredIds_perm (order : others.Perm nodes) {id : String} :
    id ∈ registeredIds others ↔ id ∈ registeredIds nodes := by
  simp only [mem_registeredIds_iff, order.mem_iff]

/-- Every id has the same component in every order. -/
theorem recordOf_perm (named : DistinctlyNamed nodes) (order : others.Perm nodes) :
    recordOf others = recordOf nodes := by
  funext id
  have sameFirst : others.find? (fun node => node.id == id) =
      nodes.find? (fun node => node.id == id) := by
    apply Option.ext
    intro node
    rw [find?_key_eq_some_iff (named.perm order).distinct, find?_key_eq_some_iff named.distinct,
      order.mem_iff]
  rw [recordOf, sameFirst, recordOf]

section Reordered

variable (order : nodes.Perm document.nodeList.nodes)
include order

/-- The first declared root is a node in every order. -/
theorem resolvedRoot_withNodes :
    resolvedRoot (document.withNodes nodes) = resolvedRoot document := by
  have sameTest : ∀ id, decide (id ∈ registeredIds nodes) =
      decide (id ∈ registeredIds document.nodeList.nodes) := fun id =>
    decide_eq_decide.mpr (mem_registeredIds_perm order)
  show Option.filter (fun id => decide (id ∈ registeredIds nodes)) _ = _
  simp only [sameTest]
  rfl

theorem outlineOf_withNodes : outlineOf (document.withNodes nodes) = outlineOf document := by
  rw [outlineOf, resolvedRoot_withNodes order]
  rfl

theorem treeOf_withNodes (named : DistinctlyNamed document.nodeList.nodes) :
    treeOf (document.withNodes nodes) = treeOf document := by
  funext id
  rw [treeOf, outlineOf_withNodes order]
  exact congrArg (Forest.tree _ · id) (recordOf_perm named order)

end Reordered

/-- Nodes with ids of their own report what their mappings lose, and nothing else. -/
theorem Populated.registerNodesFrom_report {registry final : Registry} {index : Nat}
    (populated : Populated nodes registry) (added : List Node) {report : Report}
    (named : DistinctlyNamed (nodes ++ added))
    (succeeds : Conversion.registerNodesFrom interrupt index added registry = .ok (final, report)) :
    report = added.flatMap mappingReport := by
  induction added generalizing nodes registry index report with
  | nil =>
      cases succeeds
      rfl
  | cons node rest inductionHypothesis =>
      obtain ⟨_, later, succeedsLater, rfl⟩ := registerNodesFrom_cons_eq_ok_iff.mp succeeds
      have namedLater : DistinctlyNamed (nodes ++ [node] ++ rest) := by
        rw [List.append_assoc]
        exact named
      have isNamed : node.id ≠ "" := named.named node (by simp)
      have isNew : node.id ∉ registeredIds nodes := by
        intro isKnown
        obtain ⟨_, other, member, sameId⟩ := mem_registeredIds_iff.mp isKnown
        have distinct := named.distinct
        rw [List.map_append, List.map_cons, List.nodup_middle, List.nodup_cons] at distinct
        exact distinct.1 (List.mem_append_left _ (List.mem_map.mpr ⟨other, member, sameId⟩))
      rw [inductionHypothesis (populated.registerNode index node) namedLater succeedsLater,
        registerNode_eq, if_neg isNamed, if_neg (mt populated.contains_iff.mp isNew),
        List.flatMap_cons]

/-- Registries of the same nodes in another order cannot be told apart by a lookup. -/
theorem Populated.agreesOn {left right : Registry} (leftPopulated : Populated others left)
    (rightPopulated : Populated nodes right) (named : DistinctlyNamed nodes)
    (order : others.Perm nodes) : left.AgreesOn (fun _ => True) right where
  record? id _ := by
    rw [leftPopulated.record?_eq, rightPopulated.record?_eq, recordOf_perm named order]
    simp only [mem_registeredIds_perm order]
  placement? id _ := by
    rw [Registry.placement?, Registry.placement?, leftPopulated.placements,
      rightPopulated.placements]
  rootId := leftPopulated.rootId.trans rightPopulated.rootId.symm

/-- Nodes in another order stop the conversion alike, or they are registered in registries that no
lookup can tell apart, with the same losses. -/
theorem registerNodes_alike (interrupt : Interrupt) (named : DistinctlyNamed nodes)
    (order : others.Perm nodes) :
    Alike (fun (left, report) (right, otherReport) =>
        left.AgreesOn (fun _ => True) right ∧ otherReport.Perm report)
      (registerNodes interrupt nodes) (registerNodes interrupt others) := by
  have sameWork : interrupt.Stops others ↔ interrupt.Stops nodes := by
    rw [Interrupt.Stops, Interrupt.Stops, ne_eq, ← List.length_eq_zero_iff, order.length_eq,
      List.length_eq_zero_iff]
  by_cases stops : interrupt.Stops nodes
  · rw [registerNodes_of_stops stops, registerNodes_of_stops (sameWork.mpr stops)]
    exact .failed _
  · obtain ⟨left, report, registered⟩ := registerNodes_of_not_stops stops
    obtain ⟨right, otherReport, registeredToo⟩ :=
      registerNodes_of_not_stops (mt sameWork.mp stops)
    have sameLosses : otherReport.Perm report := by
      rw [Populated.empty.registerNodesFrom_report nodes named registered,
        Populated.empty.registerNodesFrom_report others (named.perm order) registeredToo]
      exact order.flatMap_right _
    rw [registered, registeredToo]
    exact .succeeded ⟨((registerNodes_populated registeredToo).agreesOn
      (registerNodes_populated registered) named order).symm, sameLosses⟩

/-- Before generated references are cleared, documents with the same nodes in another order fail
alike, or they give the same document up to the top level, with the same losses. -/
theorem assemble_withNodes (interrupt : Interrupt) (named : DistinctlyNamed document.nodeList.nodes)
    (order : nodes.Perm document.nodeList.nodes) :
    Alike (fun original reordered =>
        reordered.bom = { original.bom with components := reordered.bom.components } ∧
          reordered.report.Perm original.report)
      (assemble interrupt document) (assemble interrupt (document.withNodes nodes)) := by
  -- Every stage gets registries that no lookup can tell apart and leaves such registries.
  rw [assemble_eq_bind, assemble_eq_bind]
  apply (registerNodes_alike interrupt named order).bind
  rintro ⟨left, report⟩ ⟨right, otherReport⟩ ⟨agrees, sameLosses⟩
  obtain ⟨agreesFromRoot, sameRoot⟩ := resolveRoot_agreesOn agrees document.nodeList.rootElements
  simp only [Document.withNodes]
  generalize resolveRoot left document.nodeList.rootElements = leftStart at agreesFromRoot sameRoot
  generalize resolveRoot right document.nodeList.rootElements = rightStart
    at agreesFromRoot sameRoot
  obtain ⟨leftStart, resolved, rootReport⟩ := leftStart
  obtain ⟨rightStart, _, _⟩ := rightStart
  cases sameRoot
  have same := resolveEdgesFrom_agreesOn agreesFromRoot interrupt 0 document.nodeList.edges
    fun _ _ _ _ => trivial
  have sameTree := finalRoot_agreesOn same.registry resolved
  refine (Alike.of_eq rfl).bind fun metadata _ sameHeader => ?_
  refine (Alike.of_eq same.result).bind fun dependencies _ sameRecords => ?_
  cases sameHeader
  cases sameRecords
  refine .succeeded ⟨?_, ?_⟩
  · simp only [resolveEdges, sameTree]
  · simp only [resolveEdges, same.report]
    exact (sameLosses.append_right _).append_right _

/-- A conversion outside strict mode, from the point where generated references are cleared. -/
def finish (behavior : Behavior) (assembled : Converted) : Converted :=
  if behavior.clearGeneratedRefs then clearGenerated behavior.generatedMark assembled else assembled

theorem convert_of_lenient {behavior : Behavior} (lenient : behavior.strict = false)
    (interrupt : Interrupt) (document : Document) :
    convert behavior interrupt document =
      assemble interrupt document >>= fun assembled => .ok (finish behavior assembled) := by
  cases assembles : assemble interrupt document with
  | error failure => exact convert_of_assemble_error behavior assembles
  | ok assembled =>
      rw [convert_of_assemble_ok behavior assembles, lenient, applyStrict_false]
      rfl

/-- In another order the top level has the same trees. -/
theorem topLevelOf_perm (behavior : Behavior) (order : nodes.Perm others) :
    (topLevelOf behavior document nodes).Perm (topLevelOf behavior document others) :=
  (order.filter _).map _

theorem topLevelOf_withNodes (behavior : Behavior) (named : DistinctlyNamed document.nodeList.nodes)
    (order : nodes.Perm document.nodeList.nodes) :
    topLevelOf behavior (document.withNodes nodes) = topLevelOf behavior document := by
  funext listed
  have sameTrees : emittedTree behavior (document.withNodes nodes) =
      emittedTree behavior document := by
    funext node
    rw [emittedTree, treeOf_withNodes order named, emittedTree]
  rw [topLevelOf, outlineOf_withNodes order, sameTrees, topLevelOf]

/-- The top level that is emitted lists nodes with ids of their own in their order. -/
theorem finish_components {assembled : Converted} (behavior : Behavior)
    (named : DistinctlyNamed document.nodeList.nodes)
    (assembles : assemble interrupt document = .ok assembled) :
    (finish behavior assembled).bom.components =
      topLevelOf behavior document document.nodeList.nodes := by
  have trees : assembled.bom.components = (document.nodeList.nodes.filter fun node =>
      ¬ (outlineOf document).IsPlaced node.id).map fun node => treeOf document node.id := by
    rw [(assemble_outlined assembles).components, unplacedIds, registeredIds_eq_map named,
      List.filter_map, List.map_map]
    rfl
  unfold finish topLevelOf
  split
  case isTrue clears =>
    simp [clearGenerated, clearGeneratedRefs, Tree.mapAll_eq_map, trees, emittedTree, clears]
  case isFalse keeps => simp [trees, emittedTree, keeps]

/-- The order of nodes with ids of their own decides the order of the top level and of the report,
and nothing else. Outside strict mode, two documents that differ in the order of such nodes fail with
the same failure, or both conversions succeed. Then the root tree, the dependency records and the
rest of the header are the same, the top level has the same trees, each time in the order of the
nodes, and the same losses are reported. -/
theorem convert_withNodes {behavior : Behavior} (lenient : behavior.strict = false)
    (interrupt : Interrupt) (named : DistinctlyNamed document.nodeList.nodes)
    (order : nodes.Perm document.nodeList.nodes) :
    Alike (Converted.ReordersTo behavior document nodes) (convert behavior interrupt document)
      (convert behavior interrupt (document.withNodes nodes)) := by
  rw [convert_of_lenient lenient, convert_of_lenient lenient]
  refine (assemble_withNodes interrupt named order).withResults.bind ?_
  rintro original reordered ⟨⟨bom, report⟩, assembles, assemblesToo⟩
  have inOrder := finish_components behavior named assembles
  have inOtherOrder := finish_components behavior (named.perm order) assemblesToo
  rw [topLevelOf_withNodes behavior named order] at inOtherOrder
  refine .succeeded ⟨?_, inOrder, inOtherOrder, ?_, ?_⟩
  · unfold finish
    split
    · rw [clearGenerated, bom]
      rfl
    · exact bom
  · rw [inOrder, inOtherOrder]
    exact topLevelOf_perm behavior order
  · have sameRecords : reordered.bom.dependencies = original.bom.dependencies := by rw [bom]
    unfold finish
    split
    · exact report.append (.of_eq (by rw [sameRecords]))
    · exact report

/-- A document whose top level has two nodes that each lose their purpose, with the root and the
library nested in it between them. -/
def interleavedDocument : Document where
  nodeList := {
    nodes := [
      { id := "doc", primaryPurpose := "handbook" }, { id := "app" }, { id := "lib" },
      { id := "tool", primaryPurpose := "gadget" }]
    edges := [⟨"app", .contains, ["lib"]⟩, ⟨"tool", .dependsOn, ["lib", "lib"]⟩]
    rootElements := ["app"] }

theorem convert_interleavedDocument_withNodes :
    ({} : Behavior).strict = false ∧
    DistinctlyNamed interleavedDocument.nodeList.nodes ∧
    interleavedDocument.nodeList.nodes.reverse.Perm interleavedDocument.nodeList.nodes ∧
    ∃ original reordered,
      convert {} {} interleavedDocument = .ok original ∧
      convert {} {} (interleavedDocument.withNodes interleavedDocument.nodeList.nodes.reverse) =
        .ok reordered ∧
      original.bom.components.map Component.ref = ["doc", "tool"] ∧
      reordered.bom.components.map Component.ref = ["tool", "doc"] ∧
      reordered.bom = { original.bom with components := reordered.bom.components } ∧
      original.report.map Degradation.nodeId = [some "doc", some "tool", some "tool"] ∧
      reordered.report.Perm original.report := by
  have named : DistinctlyNamed interleavedDocument.nodeList.nodes := ⟨by decide, by decide⟩
  have order := List.reverse_perm interleavedDocument.nodeList.nodes
  have alike := convert_withNodes (rfl : ({} : Behavior).strict = false) {} named order
  have succeeds : convert {} {} interleavedDocument = .ok _ := rfl
  rw [succeeds] at alike
  obtain ⟨reordered, converts, reorders⟩ := alike.of_ok
  have listed : reordered.bom.components.map Component.ref = ["tool", "doc"] := by
    cases converts
    rfl
  exact ⟨rfl, named, order, _, reordered, succeeds, converts, rfl, listed, reorders.bom, rfl,
    reorders.report⟩

end Conversion

end Sbom
