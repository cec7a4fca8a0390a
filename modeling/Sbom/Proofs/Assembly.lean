import Sbom.Proofs.Population

/-!
# The tree of a conversion

A conversion copies each component while later edges are still to come. `Outlined` says what it
returns all the same: the trees that the finished outline of the document unfolds to. The root tree
is the one of the resolved root, and the top level has the trees of the references without a
placement, in the order of their first nodes.
-/

namespace Sbom.Conversion

open CycloneDx (Bom Component Dependency)
open Sbom.Graph (Document)
open Settings (Behavior)

/-- The component of a reference with everything that the edges of a document nest in it. -/
def treeOf (document : Document) (id : String) : Component :=
  (outlineOf document).forest.tree (recordOf document.nodeList.nodes) id

/-- The references without a placement, in the order of their first nodes. -/
def unplacedIds (document : Document) : List String :=
  (registeredIds document.nodeList.nodes).filter fun id => ¬ (outlineOf document).IsPlaced id

/-- A registered reference is the one of its tree. -/
theorem treeOf_ref {document : Document} {id : String}
    (member : id ∈ registeredIds document.nodeList.nodes) : (treeOf document id).ref = id :=
  (Forest.tree_ref _ _ _).trans (recordOf_named _ id member)

theorem mem_unplacedIds_iff {document : Document} {id : String} :
    id ∈ unplacedIds document ↔
      id ∈ registeredIds document.nodeList.nodes ∧ ¬ (outlineOf document).IsPlaced id := by
  simp [unplacedIds]

/-- A bill of materials whose trees and dependency records are those of the outline of a
document. -/
structure Outlined (document : Document) (bom : Bom) : Prop where
  within : Forest.Within (registeredIds document.nodeList.nodes) (outlineOf document).forest
  dependenciesWithin : ∀ dependency ∈ (outlineOf document).dependencies,
    dependency.ref ∈ registeredIds document.nodeList.nodes ∧
      dependency.dependsOn ⊆ registeredIds document.nodeList.nodes
  root : bom.metadata.component =
    applyName ((resolvedRoot document).map (treeOf document)) document.metadata.name
  components : bom.components = (unplacedIds document).map (treeOf document)
  dependencies : bom.dependencies = (outlineOf document).dependencies

/-- The root of an outline is the resolved root of its document. -/
theorem outlineOf_root (document : Document) :
    (outlineOf document).root = resolvedRoot document :=
  (Outline.ofEdges_root_orderly _ _).1

/-- The forest of a document is orderly. -/
theorem outlineOf_orderly (document : Document) :
    (outlineOf document).forest.Orderly (resolvedRoot document) :=
  (Outline.ofEdges_root_orderly _ _).2

/-- The components that are left for the top level. -/
theorem Represents.harvest {ids : List String} {record : String → Component} {outline : Outline}
    {registry : Registry} (represents : Represents ids record outline registry)
    (named : Forest.Named ids record) :
    registry.harvest =
      (ids.filter fun id => ¬ outline.IsPlaced id).map (outline.forest.tree record) := by
  rw [Registry.harvest, represents.records, List.filter_map]
  congr 1
  apply List.filter_congr
  intro id member
  rw [Bool.eq_iff_iff, Function.comp_apply, Forest.tree_ref, named id member, Bool.not_eq_true',
    ← Bool.not_eq_true, represents.isPlaced_iff, decide_eq_true_eq]

/-- The root component as the edges left it, and what is left for the top level beside it. -/
theorem Represents.finalRoot {ids : List String} {record : String → Component} {outline : Outline}
    {registry : Registry} (represents : Represents ids record outline registry)
    (named : Forest.Named ids record) (rootMember : ∀ id, outline.root = some id → id ∈ ids) :
    (finalRoot registry (outline.root.map record)).2 =
        outline.root.map (outline.forest.tree record) ∧
      (finalRoot registry (outline.root.map record)).1.harvest =
        (ids.filter fun id => ¬ outline.IsPlaced id).map (outline.forest.tree record) := by
  cases isRoot : outline.root with
  | none => exact ⟨rfl, represents.harvest named⟩
  | some id =>
      have found := represents.record? named (rootMember id isRoot)
      have rootId : registry.rootId = some id := represents.rootId.trans isRoot
      have placed : ∀ id, registry.rootId = some id → registry.isPlaced id = true := by
        intro id isRootId
        exact represents.isPlaced_iff.mpr (.inl (represents.rootId.symm.trans isRootId))
      constructor
      · simp [Conversion.finalRoot, Registry.takeRoot, rootId, found]
      · exact (Registry.takeRoot_harvest placed).trans (represents.harvest named)

/-- The stages of a conversion one after the other, before generated references are cleared. -/
theorem assemble_eq_bind (interrupt : Interrupt) (document : Document) :
    assemble interrupt document =
      registerNodes interrupt document.nodeList.nodes >>= fun (registry, nodeReport) =>
      let (start, resolved, rootReport) := resolveRoot registry document.nodeList.rootElements
      let step := resolveEdges interrupt document.nodeList.edges start
      documentMetadata document.metadata >>= fun metadata =>
      step.result >>= fun dependencies =>
      .ok {
        bom := {
          serialNumber := document.metadata.id
          version := documentVersion document.metadata
          metadata := { metadata with
            component := applyName (finalRoot step.registry resolved).2 document.metadata.name }
          components := (finalRoot step.registry resolved).1.harvest
          dependencies := dependencies }
        report := nodeReport ++ rootReport ++ step.report } := rfl

/-- What a conversion that succeeds is made of, before generated references are cleared. -/
theorem assemble_eq_ok {interrupt : Interrupt} {document : Document} {converted : Converted}
    (succeeds : assemble interrupt document = .ok converted) :
    ∃ registry nodeReport metadata dependencies,
      registerNodes interrupt document.nodeList.nodes = .ok (registry, nodeReport) ∧
      documentMetadata document.metadata = .ok metadata ∧
      (resolveEdges interrupt document.nodeList.edges
        (resolveRoot registry document.nodeList.rootElements).1).result = .ok dependencies ∧
      converted =
        let (start, resolved, rootReport) := resolveRoot registry document.nodeList.rootElements
        let step := resolveEdges interrupt document.nodeList.edges start
        let (final, root) := finalRoot step.registry resolved
        { bom := {
            serialNumber := document.metadata.id
            version := documentVersion document.metadata
            metadata := { metadata with component := applyName root document.metadata.name }
            components := final.harvest
            dependencies := dependencies }
          report := nodeReport ++ rootReport ++ step.report } := by
  unfold assemble at succeeds
  cases registered : registerNodes interrupt document.nodeList.nodes with
  | error failure => simp [registered, bind, Except.bind] at succeeds
  | ok population =>
      obtain ⟨registry, nodeReport⟩ := population
      cases header : documentMetadata document.metadata with
      | error failure => simp [registered, header, bind, Except.bind] at succeeds
      | ok metadata =>
          cases resolved : (resolveEdges interrupt document.nodeList.edges
              (resolveRoot registry document.nodeList.rootElements).1).result with
          | error failure =>
              simp [registered, header, resolved, bind, Except.bind] at succeeds
          | ok dependencies =>
              simp only [registered, header, resolved, bind, Except.bind, pure, Except.pure,
                Except.ok.injEq] at succeeds
              exact ⟨registry, nodeReport, metadata, dependencies, rfl, rfl, resolved,
                succeeds.symm⟩

/-- A conversion succeeds, before generated references are cleared, if its parts do. -/
theorem assemble_succeeds {interrupt : Interrupt} {document : Document} {registry : Registry}
    {nodeReport : Report} {metadata : CycloneDx.Metadata} {dependencies : List Dependency}
    (registered : registerNodes interrupt document.nodeList.nodes = .ok (registry, nodeReport))
    (header : documentMetadata document.metadata = .ok metadata)
    (resolved : (resolveEdges interrupt document.nodeList.edges
      (resolveRoot registry document.nodeList.rootElements).1).result = .ok dependencies) :
    ∃ converted, assemble interrupt document = .ok converted := by
  simp [assemble, registered, header, resolved, bind, Except.bind, pure, Except.pure]

/-- A conversion that succeeds, before generated references are cleared, is outlined by its
document. -/
theorem assemble_outlined {interrupt : Interrupt} {document : Document} {converted : Converted}
    (succeeds : assemble interrupt document = .ok converted) :
    Outlined document converted.bom := by
  obtain ⟨registry, nodeReport, metadata, dependencies, registered, _, resolved, rfl⟩ :=
    assemble_eq_ok succeeds
  have named := recordOf_named document.nodeList.nodes
  obtain ⟨start, resolvedFrom⟩ := resolveRoot_represents (registerNodes_populated registered)
  obtain ⟨final, found⟩ := start.resolveEdgesFrom named document.nodeList.edges resolved
  have rootMember : ∀ id, (outlineOf document).root = some id →
      id ∈ registeredIds document.nodeList.nodes := by
    intro id isRoot
    exact resolvedRoot_mem ((outlineOf_root document).symm.trans isRoot)
  obtain ⟨rootTree, topLevel⟩ := Represents.finalRoot final named rootMember
  rw [← outlineOf_root] at resolvedFrom
  exact {
    within := final.within
    dependenciesWithin := final.dependenciesWithin
    root := by
      simp only [resolvedFrom, resolveEdges]
      rw [← outlineOf_root]
      exact congrArg (applyName · document.metadata.name) rootTree
    components := by
      simp only [resolvedFrom, resolveEdges]
      exact topLevel
    dependencies := found.symm }

/-- A conversion that succeeds is the one before strict mode, and that one only clears generated
references afterwards. -/
theorem convert_eq_ok {behavior : Behavior} {interrupt : Interrupt} {document : Document}
    {converted : Converted} (succeeds : convert behavior interrupt document = .ok converted) :
    ∃ assembled, assemble interrupt document = .ok assembled ∧
      converted = if behavior.clearGeneratedRefs then
        clearGenerated behavior.generatedMark assembled else assembled := by
  unfold convert convertLeniently at succeeds
  cases result : assemble interrupt document with
  | error failure => simp [result, bind, Except.bind] at succeeds
  | ok assembled =>
      refine ⟨assembled, rfl, ?_⟩
      simp only [result, bind, Except.bind, pure, Except.pure, applyStrict] at succeeds
      split at succeeds
      · exact (Except.ok.inj succeeds).symm
      · split at succeeds
        · cases succeeds
        · exact (Except.ok.inj succeeds).symm

/-- What comes after the conversion proper: generated references are cleared if the behaviour asks
for it, and then strict mode is applied. -/
theorem convert_of_assemble_ok (behavior : Behavior) {interrupt : Interrupt} {document : Document}
    {assembled : Converted} (assembles : assemble interrupt document = .ok assembled) :
    convert behavior interrupt document =
      applyStrict behavior.strict
        (if behavior.clearGeneratedRefs then clearGenerated behavior.generatedMark assembled
          else assembled) := by
  simp [convert, convertLeniently, assembles, bind, Except.bind, pure, Except.pure]

theorem convert_of_assemble_error (behavior : Behavior) {interrupt : Interrupt}
    {document : Document} {failure : Failure}
    (fails : assemble interrupt document = .error failure) :
    convert behavior interrupt document = .error failure := by
  simp [convert, convertLeniently, fails, bind, Except.bind]

/-- Without strict mode every conversion is let through. -/
@[simp] theorem applyStrict_false (converted : Converted) :
    applyStrict false converted = .ok converted := by
  unfold applyStrict
  split <;> rfl

/-- Strict mode fails exactly for a conversion that lost something. -/
theorem applyStrict_eq_error_iff {strict : Bool} {converted : Converted} {failure : Failure} :
    applyStrict strict converted = .error failure ↔
      strict = true ∧ ∃ first rest, converted.report = first :: rest ∧
        failure = .degraded (rest.length + 1) first.shown := by
  unfold applyStrict
  cases converted.report with
  | nil => simp
  | cons first rest => cases strict <;> simp [eq_comm]

/-- A conversion that keeps generated references is outlined by its document. -/
theorem convert_outlined {behavior : Behavior} {interrupt : Interrupt} {document : Document}
    {converted : Converted} (keepsRefs : behavior.clearGeneratedRefs = false)
    (succeeds : convert behavior interrupt document = .ok converted) :
    Outlined document converted.bom := by
  obtain ⟨assembled, assembles, same⟩ := convert_eq_ok succeeds
  rw [keepsRefs, if_neg Bool.false_ne_true] at same
  subst same
  exact assemble_outlined assembles

/-- What the name of a document can do to the root component: nothing, rename it, or stand in for
one. -/
theorem applyName_cases (root : Option Component) (name : String) :
    applyName root name = root ∨
    (∃ component, root = some component ∧
      applyName root name = some (component.rename name)) ∨
    (root = none ∧ applyName root name = some (.bare "" name)) := by
  unfold applyName
  split
  · exact .inl rfl
  · cases root with
    | none => exact .inr (.inr ⟨rfl, rfl⟩)
    | some component => exact .inr (.inl ⟨component, rfl, rfl⟩)

/-- A root component with children is the one of the resolved root, whatever its name. -/
theorem children_of_applyName {root : Option String} {tree : String → Component} {name : String}
    {component child : Component} (named : applyName (root.map tree) name = some component)
    (isChild : child ∈ component.children) :
    ∃ id, root = some id ∧ component.children = (tree id).children := by
  obtain kept | ⟨unnamed, isRoot, renamed⟩ | ⟨_, bare⟩ := applyName_cases (root.map tree) name
  · obtain ⟨id, isResolved, rfl⟩ := Option.map_eq_some_iff.mp (kept.symm.trans named)
    exact ⟨id, isResolved, rfl⟩
  · obtain ⟨id, isResolved, rfl⟩ := Option.map_eq_some_iff.mp isRoot
    cases renamed.symm.trans named
    exact ⟨id, isResolved, rfl⟩
  · cases bare.symm.trans named
    exact absurd isChild List.not_mem_nil

/-- Copies are never stale: a conversion returns the trees that the finished forest of the document
unfolds to, and every component nested in them is the tree of its own reference. Of the root tree,
only the name is replaced by that of the document, unless the document has none; without a root, the
name makes one with an empty reference. -/
theorem convert_eq_unfolded {behavior : Behavior} {interrupt : Interrupt} {document : Document}
    {converted : Converted} (keepsRefs : behavior.clearGeneratedRefs = false)
    (succeeds : convert behavior interrupt document = .ok converted) :
    (∀ id, treeOf document id =
      .node (recordOf document.nodeList.nodes id).value
        (((outlineOf document).forest.contentsOf id).map (treeOf document))) ∧
    converted.bom.metadata.component =
      (match resolvedRoot document with
        | some id =>
          if document.metadata.name = "" then some (treeOf document id)
          else some (.node { (treeOf document id).value with name := document.metadata.name }
            (treeOf document id).children)
        | none =>
          if document.metadata.name = "" then none
          else some (.node { ref := "", name := document.metadata.name } [])) ∧
    converted.bom.components = (unplacedIds document).map (treeOf document) ∧
    (∀ component : Component, component ∈ Tree.preorderAll (converted.bom.components ++
        converted.bom.metadata.component.toList.flatMap Tree.children) →
      component = treeOf document component.ref) := by
  have outlined := convert_outlined keepsRefs succeeds
  have orderly := outlineOf_orderly document
  have named := recordOf_named document.nodeList.nodes
  have unfolds : ∀ id, treeOf document id = .node (recordOf document.nodeList.nodes id).value
      (((outlineOf document).forest.contentsOf id).map (treeOf document)) :=
    fun id => orderly.tree_eq id
  have rootEq : converted.bom.metadata.component = _ := outlined.root
  refine ⟨unfolds, ?_, outlined.components, ?_⟩
  · rw [rootEq]
    cases resolvedRoot document with
    | none =>
        simp only [applyName, Option.map_none, String.isEmpty_iff]
        rfl
    | some id =>
        simp only [applyName, Option.map_some, String.isEmpty_iff]
        rfl
  · intro component member
    -- Every component below the root or at the top level is a part of the tree of a reference.
    have partOf : ∃ id ∈ registeredIds document.nodeList.nodes,
        component ∈ (treeOf document id).preorder := by
      rw [Tree.preorderAll_eq_flatMap, List.mem_flatMap] at member
      obtain ⟨tree, isTree, part⟩ := member
      rcases List.mem_append.mp isTree with topLevel | belowRoot
      · rw [outlined.components] at topLevel
        obtain ⟨id, unplaced, rfl⟩ := List.mem_map.mp topLevel
        exact ⟨id, List.mem_of_mem_filter unplaced, part⟩
      · obtain ⟨root, isRoot, isChild⟩ := List.mem_flatMap.mp belowRoot
        rw [Option.mem_toList, rootEq] at isRoot
        obtain ⟨id, isResolved, sameChildren⟩ := children_of_applyName isRoot isChild
        refine ⟨id, resolvedRoot_mem isResolved, ?_⟩
        rw [sameChildren] at isChild
        rw [Tree.preorder_eq, List.mem_cons, Tree.preorderAll_eq_flatMap]
        exact .inr (List.mem_flatMap.mpr ⟨tree, isChild, part⟩)
    obtain ⟨id, idMember, part⟩ := partOf
    exact orderly.eq_tree_of_mem_preorder outlined.within named idMember part

/-- A document in which a library gains a part before it is a dependency and is nested itself, and
in which edges name their own source, the root, and a source that is already nested. -/
def layeredDocument : Document where
  metadata := { name := "release" }
  nodeList := {
    nodes := [{ id := "app" }, { id := "lib" }, { id := "part" }, { id := "tool" }, { id := "doc" }]
    edges := [
      ⟨"lib", .contains, ["part", "lib", "part"]⟩,
      ⟨"app", .dependsOn, ["lib", "tool"]⟩,
      ⟨"app", .contains, ["app", "lib"]⟩,
      ⟨"lib", .contains, ["doc"]⟩]
    rootElements := ["app"] }

theorem convert_layeredDocument :
    ({ clearGeneratedRefs := false } : Behavior).clearGeneratedRefs = false ∧
    ∃ converted,
      convert { clearGeneratedRefs := false } {} layeredDocument = .ok converted ∧
      converted.bom.metadata.component = some (.node { ref := "app", name := "release" } [
        .node { ref := "lib" } [.node { ref := "part" } []]]) ∧
      converted.bom.components = [.node { ref := "doc" } []] ∧
      treeOf layeredDocument "app" =
        .node { ref := "app" } [.node { ref := "lib" } [.node { ref := "part" } []]] := by
  have keepsRefs : ({ clearGeneratedRefs := false } : Behavior).clearGeneratedRefs = false := rfl
  refine ⟨keepsRefs, _, rfl, ?_⟩
  obtain ⟨_, root, topLevel, _⟩ := convert_eq_unfolded keepsRefs
    (rfl : convert { clearGeneratedRefs := false } {} layeredDocument = .ok _)
  exact ⟨root, topLevel, rfl⟩

end Sbom.Conversion
