import Mathlib.Data.List.Perm.Basic
import Sbom.Proofs.Locality
import Sbom.Proofs.Skipping

/-!
# Edges that have nothing to do with each other

Two edges that name no reference in common can trade places. Neither sees what the other one
changes, so each does after the other what it would have done before it, and the registries that the
two orders lead to cannot be told apart by any lookup. Everything after the two edges is then the
same. Of a conversion only the order of two dependency records and of some entries of the report can
be different. The records trade places exactly if both edges give one, which can be read off the
edges before them.
-/

namespace Sbom

open Sbom.Graph (Document Edge)

/-- Edges that name no reference in common. -/
def Graph.Edge.Independent (first second : Edge) : Prop :=
  first.endpoints.Disjoint second.endpoints

theorem Graph.Edge.Independent.symm {first second : Edge} (independent : first.Independent second) :
    second.Independent first :=
  fun _ isSecond isFirst => independent isFirst isSecond

/-- The document with other edges. -/
def Graph.Document.withEdges (document : Document) (edges : List Edge) : Document :=
  { document with nodeList := { document.nodeList with edges } }

namespace Conversion

open CycloneDx (Component Dependency)
open Settings (Behavior)

/-- The dependency record of an edge behind others: none if the edge is skipped or is no dependency,
and else its source with the first occurrence of each target. -/
def recordBehind (root : Option String) (earlier : List Edge) (edge : Edge) : Option Dependency :=
  if edge.kind = .dependsOn ∧ ¬ SkippedAfter root (takenEdges root earlier) edge then
    some ⟨edge.source, edge.targets.eraseDups⟩
  else none

/-- Dependency records in which those of two edges behind others have traded places. They stand
behind the records of the edges before them. -/
def SwapsRecords (root : Option String) (earlier : List Edge) (first second : Edge)
    (original swapped : List Dependency) : Prop :=
  ∃ after,
    original = dependencyRecords (takenEdges root earlier) ++
      (recordBehind root earlier first).toList ++ (recordBehind root earlier second).toList ++
        after ∧
    swapped = dependencyRecords (takenEdges root earlier) ++
      (recordBehind root earlier second).toList ++ (recordBehind root earlier first).toList ++ after

/-- How a conversion stands to another one whose document has two edges, which stand behind the same
others, in the opposite order. -/
structure Converted.SwapsTo (root : Option String) (earlier : List Edge) (first second : Edge)
    (original swapped : Converted) : Prop where
  bom : swapped.bom = { original.bom with dependencies := swapped.bom.dependencies }
  dependencies : SwapsRecords root earlier first second original.bom.dependencies
    swapped.bom.dependencies
  report : swapped.report.Perm original.report

/-- How a resolution stands to another one that succeeds too, with two edges in the opposite
order. -/
structure Step.SwapsTo (original swapped : Step (List Dependency)) : Prop where
  registry : original.registry.AgreesOn (fun _ => True) swapped.registry
  report : swapped.report.Perm original.report
  succeeds : ∃ dependencies, swapped.result = .ok dependencies

variable {interrupt : Interrupt} {index : Nat} {registry : Registry} {first second : Edge}
  {one other : Option Dependency}

/-- The position of an edge matters only to its failures. -/
theorem edgeStep_eq_of_ok {edge : Edge} {found : Option Dependency}
    (succeeds : (edgeStep interrupt index edge registry).result = .ok found) (position : Nat) :
    edgeStep interrupt position edge registry = edgeStep interrupt index edge registry := by
  unfold edgeStep at succeeds ⊢
  cases checked : interrupt.check "relationship resolution" with
  | error failure => simp [checked] at succeeds
  | ok _ =>
      simp only [checked] at succeeds
      by_cases skipped : isSkipped edge registry = true
      · simp only [if_pos skipped]
      · simp only [if_neg skipped] at succeeds ⊢
        cases resolved : (resolveEdge edge registry).result with
        | error failure => simp [resolved, inContext, Except.mapError] at succeeds
        | ok value => simp [inContext, Except.mapError]

/-- An edge that does not fail is followed by the edges after it. -/
theorem resolveEdgesFrom_cons_of_ok {edge : Edge} {found : Option Dependency} (rest : List Edge)
    (succeeds : (edgeStep interrupt index edge registry).result = .ok found) :
    resolveEdgesFrom interrupt index (edge :: rest) registry =
      ⟨(resolveEdgesFrom interrupt (index + 1) rest
          (edgeStep interrupt index edge registry).registry).registry,
        (edgeStep interrupt index edge registry).report ++
          (resolveEdgesFrom interrupt (index + 1) rest
            (edgeStep interrupt index edge registry).registry).report,
        (resolveEdgesFrom interrupt (index + 1) rest
          (edgeStep interrupt index edge registry).registry).result.map (found.toList ++ ·)⟩ := by
  rw [resolveEdgesFrom]
  simp only [succeeds]

/-- Of two edges with nothing in common, the second one does the same without the first one before
it, the first one does the same with the second one before it, and no lookup tells apart what the
two orders lead to. -/
theorem edgeStep_swap (independent : first.Independent second)
    (firstOk : (edgeStep interrupt index first registry).result = .ok one)
    (secondOk : (edgeStep interrupt (index + 1) second
      (edgeStep interrupt index first registry).registry).result = .ok other) :
    (edgeStep interrupt index second registry).AgreesOn (· ∈ second.endpoints)
        (edgeStep interrupt (index + 1) second
          (edgeStep interrupt index first registry).registry) ∧
      (edgeStep interrupt (index + 1) first
          (edgeStep interrupt index second registry).registry).AgreesOn (· ∈ first.endpoints)
        (edgeStep interrupt index first registry) ∧
      (edgeStep interrupt (index + 1) second
          (edgeStep interrupt index first registry).registry).registry.AgreesOn (fun _ => True)
        (edgeStep interrupt (index + 1) first
          (edgeStep interrupt index second registry).registry).registry := by
  have afterFirst := edgeStep_changesOnly interrupt index first registry
  have afterSecond := edgeStep_changesOnly interrupt index second registry
  have thenSecond := edgeStep_changesOnly interrupt (index + 1) second
    (edgeStep interrupt index first registry).registry
  have thenFirst := edgeStep_changesOnly interrupt (index + 1) first
    (edgeStep interrupt index second registry).registry
  -- Each of the two finds what it names as it would without the other one before it.
  have untouchedSecond : registry.AgreesOn (· ∈ second.endpoints)
      (edgeStep interrupt index first registry).registry :=
    afterFirst.elsewhere.mono fun _ isSecond isFirst => independent isFirst isSecond
  have untouchedFirst : registry.AgreesOn (· ∈ first.endpoints)
      (edgeStep interrupt index second registry).registry :=
    afterSecond.elsewhere.mono fun _ isFirst isSecond => independent isFirst isSecond
  have sameSecond := edgeStep_agreesOn untouchedSecond interrupt index fun _ member => member
  have sameFirst := edgeStep_agreesOn untouchedFirst.symm interrupt (index + 1)
    fun _ member => member
  rw [edgeStep_eq_of_ok secondOk index] at sameSecond
  rw [edgeStep_eq_of_ok firstOk (index + 1)] at sameFirst
  have onFirst := (thenSecond.elsewhere.mono fun _ isFirst isSecond =>
    independent isFirst isSecond).symm.trans sameFirst.registry.symm
  have onSecond := sameSecond.registry.symm.trans
    (thenFirst.elsewhere.mono fun _ isSecond isFirst => independent isFirst isSecond)
  have oneWay := (afterFirst.elsewhere.mono fun _ => And.left).trans
    (thenSecond.elsewhere.mono fun _ => And.right)
  have otherWay := (afterSecond.elsewhere.mono fun _ => And.right).trans
    (thenFirst.elsewhere.mono fun _ => And.left)
  exact ⟨sameSecond, sameFirst, onFirst.everywhere onSecond (oneWay.symm.trans otherWay)⟩

/-- Two edges with nothing in common can trade places in a resolution that succeeds, whatever comes
before and after them. -/
theorem resolveEdgesFrom_swap (independent : first.Independent second) (earlier later : List Edge)
    {dependencies : List Dependency}
    (succeeds : (resolveEdgesFrom interrupt index (earlier ++ first :: second :: later)
      registry).result = .ok dependencies) :
    (resolveEdgesFrom interrupt index (earlier ++ first :: second :: later) registry).SwapsTo
      (resolveEdgesFrom interrupt index (earlier ++ second :: first :: later) registry) := by
  induction earlier generalizing index registry dependencies with
  | nil =>
      rw [List.nil_append] at succeeds
      obtain ⟨one, _, firstOk, restOk, _⟩ := resolveEdgesFrom_cons_eq_ok succeeds
      obtain ⟨other, remaining, secondOk, laterOk, _⟩ := resolveEdgesFrom_cons_eq_ok restOk
      obtain ⟨sameSecond, sameFirst, agrees⟩ := edgeStep_swap independent firstOk secondOk
      have same := resolveEdgesFrom_agreesOn agrees interrupt (index + 1 + 1) later
        fun _ _ _ _ => trivial
      rw [List.nil_append, List.nil_append, resolveEdgesFrom_cons_of_ok _ firstOk,
        resolveEdgesFrom_cons_of_ok _ secondOk,
        resolveEdgesFrom_cons_of_ok _ (sameSecond.result.trans secondOk),
        resolveEdgesFrom_cons_of_ok _ (sameFirst.result.trans firstOk)]
      refine ⟨same.registry, ?_, ?_⟩
      · simp only [sameSecond.report, sameFirst.report, ← same.report, ← List.append_assoc]
        exact List.perm_append_comm.append_right _
      · simp only [← same.result, laterOk, Except.map]
        exact ⟨_, rfl⟩
  | cons edge earlier inductionHypothesis =>
      rw [List.cons_append] at succeeds
      obtain ⟨found, _, edgeOk, restOk, _⟩ := resolveEdgesFrom_cons_eq_ok succeeds
      obtain ⟨agrees, report, _, swappedOk⟩ := inductionHypothesis restOk
      rw [List.cons_append, List.cons_append, resolveEdgesFrom_cons_of_ok _ edgeOk,
        resolveEdgesFrom_cons_of_ok _ edgeOk]
      refine ⟨agrees, report.append_left _, ?_⟩
      simp only [swappedOk, Except.map]
      exact ⟨_, rfl⟩

/-- What is left beside the root depends on the records and on what lookups show. -/
theorem finalRoot_harvest_congr {left right : Registry}
    (agrees : left.AgreesOn (fun _ => True) right) (records : left.records = right.records)
    (resolved : Option Component) :
    (finalRoot left resolved).1.harvest = (finalRoot right resolved).1.harvest := by
  have unplaced : (fun component : Component => !left.isPlaced component.ref) =
      fun component => !right.isPlaced component.ref := by
    funext component
    rw [agrees.isPlaced trivial]
  have sameHarvest : left.harvest = right.harvest := by
    rw [Registry.harvest, Registry.harvest, records, unplaced]
  cases resolved with
  | none => exact sameHarvest
  | some component =>
      show left.takeRoot.1.harvest = right.takeRoot.1.harvest
      unfold Registry.takeRoot
      rw [agrees.rootId]
      cases right.rootId with
      | none => exact sameHarvest
      | some id =>
          show List.filter _ (List.filter _ left.records) =
            List.filter _ (List.filter _ right.records)
          rw [records]
          exact congrArg (List.filter · _) unplaced

section Records

variable {root : Option String}

/-- One edge behind others, if it is taken there. -/
def takenBehind (root : Option String) (earlier : List Edge) (edge : Edge) : List Edge :=
  if SkippedAfter root (takenEdges root earlier) edge then [] else [edge]

/-- The records of one edge behind others. -/
theorem toList_recordBehind (root : Option String) (earlier : List Edge) (edge : Edge) :
    (recordBehind root earlier edge).toList =
      dependencyRecords (takenBehind root earlier edge) := by
  rw [recordBehind, takenBehind]
  by_cases skipped : SkippedAfter root (takenEdges root earlier) edge
  · simp [skipped, dependencyRecords]
  · rw [if_neg skipped, dependencyRecords_singleton]
    by_cases kind : edge.kind = .dependsOn <;> simp [kind, skipped]

/-- An edge is skipped behind another one with which it has nothing in common exactly if it is
skipped without it. -/
theorem skippedAfter_takeEdge_iff (independent : first.Independent second) (taken : List Edge) :
    SkippedAfter root (takeEdge root taken first) second ↔ SkippedAfter root taken second := by
  have leaves : ¬ PlacesTarget first second.source := fun places =>
    independent (List.mem_cons_of_mem _ places.1) List.mem_cons_self
  by_cases skipped : SkippedAfter root taken first
  · rw [takeEdge_of_skipped skipped]
  · rw [takeEdge_of_not_skipped skipped]
    simp [SkippedAfter, or_and_right, exists_or, leaves]

/-- Which of two edges with nothing in common are taken does not depend on their order, and neither
does what is taken after them. -/
theorem takenEdges_swap (independent : first.Independent second) (root : Option String)
    (earlier later : List Edge) :
    ∃ rest,
      takenEdges root (earlier ++ first :: second :: later) =
        takenEdges root earlier ++ takenBehind root earlier first ++
          takenBehind root earlier second ++ rest ∧
      takenEdges root (earlier ++ second :: first :: later) =
        takenEdges root earlier ++ takenBehind root earlier second ++
          takenBehind root earlier first ++ rest := by
  have appends : ∀ taken edge, takeEdge root taken edge =
      taken ++ if SkippedAfter root taken edge then [] else [edge] := by
    intro taken edge
    rw [takeEdge]
    split <;> simp
  have both : ∀ {one other : Edge}, one.Independent other →
      takeEdge root (takeEdge root (takenEdges root earlier) one) other =
        takenEdges root earlier ++ takenBehind root earlier one ++
          takenBehind root earlier other := by
    intro one other apart
    rw [appends _ other, if_congr (skippedAfter_takeEdge_iff apart _) rfl rfl, appends _ one,
      takenBehind, takenBehind]
  have behind : ∀ one other, takenEdges root (earlier ++ one :: other :: later) =
      later.foldl (takeEdge root)
        (takeEdge root (takeEdge root (takenEdges root earlier) one) other) := by
    intro one other
    rw [takenEdges, List.foldl_append]
    rfl
  rw [behind first second, behind second first, both independent, both independent.symm]
  exact foldl_takeEdge_congr (fun edge => by simp only [List.mem_append]; tauto) later

/-- The records of two edges with nothing in common trade places with the edges. -/
theorem dependencyRecords_swap (independent : first.Independent second) (root : Option String)
    (earlier later : List Edge) :
    SwapsRecords root earlier first second
      (dependencyRecords (takenEdges root (earlier ++ first :: second :: later)))
      (dependencyRecords (takenEdges root (earlier ++ second :: first :: later))) := by
  obtain ⟨rest, original, swapped⟩ := takenEdges_swap independent root earlier later
  refine ⟨dependencyRecords rest, ?_, ?_⟩
  · simp only [original, dependencyRecords_append, toList_recordBehind]
  · simp only [swapped, dependencyRecords_append, toList_recordBehind]

/-- Records that trade places are the same records. -/
theorem SwapsRecords.perm {earlier : List Edge} {original swapped : List Dependency}
    (swaps : SwapsRecords root earlier first second original swapped) :
    swapped.Perm original := by
  obtain ⟨after, rfl, rfl⟩ := swaps
  refine List.Perm.append_right after ?_
  rw [List.append_assoc, List.append_assoc]
  exact List.perm_append_comm.append_left _

end Records

/-- Clearing generated references keeps the difference to the order of records and entries. -/
theorem Converted.SwapsTo.clearGenerated {root : Option String} {earlier : List Edge}
    {original swapped : Converted} (mark : String)
    (swaps : original.SwapsTo root earlier first second swapped) :
    (clearGenerated mark original).SwapsTo root earlier first second
      (clearGenerated mark swapped) where
  bom := by
    rw [Conversion.clearGenerated, swaps.bom]
    rfl
  dependencies := swaps.dependencies
  report := swaps.report.append (swaps.dependencies.perm.filterMap _)

/-- The two orders of two edges with nothing in common lead to registries with the same records. -/
theorem Step.SwapsTo.records {original swapped : Step (List Dependency)}
    (swaps : original.SwapsTo swapped)
    (refs : swapped.registry.records.map Component.ref =
      original.registry.records.map Component.ref)
    (distinct : (original.registry.records.map Component.ref).Nodup) :
    original.registry.records = swapped.registry.records := by
  have sameLookup : original.registry.record? = swapped.registry.record? :=
    funext fun id => swaps.registry.record? id trivial
  rw [Registry.records_eq_filterMap distinct, sameLookup, ← refs]
  exact (Registry.records_eq_filterMap (refs ▸ distinct)).symm

/-- Two adjacent edges with nothing in common can trade places in a conversion that succeeds, before
generated references are cleared. -/
theorem assemble_swap {document : Document} {original : Converted} {earlier later : List Edge}
    (position : document.nodeList.edges = earlier ++ first :: second :: later)
    (independent : first.Independent second)
    (succeeds : assemble interrupt document = .ok original) :
    ∃ swapped,
      assemble interrupt (document.withEdges (earlier ++ second :: first :: later)) =
        .ok swapped ∧
      original.SwapsTo (resolvedRoot document) earlier first second swapped := by
  have records := assemble_dependencies succeeds
  obtain ⟨registry, nodeReport, metadata, dependencies, registered, header, resolved, rfl⟩ :=
    assemble_eq_ok succeeds
  rw [position] at resolved records ⊢
  have swaps := resolveEdgesFrom_swap independent earlier later resolved
  obtain ⟨other, swappedOk⟩ := swaps.succeeds
  -- The components are the same too, because the references of nodes are distinct.
  have start := (resolveRoot_represents (registerNodes_populated registered)).1
  have components := swaps.records (by rw [resolveEdgesFrom_refs, resolveEdgesFrom_refs]) (by
    rw [resolveEdgesFrom_refs, start.refs (recordOf_named _)]
    exact nodup_registeredIds _)
  have sameRoot := finalRoot_agreesOn swaps.registry
    (resolveRoot registry document.nodeList.rootElements).2.1
  have sameHarvest := finalRoot_harvest_congr swaps.registry components
    (resolveRoot registry document.nodeList.rootElements).2.1
  have assembles : ∃ swapped,
      assemble interrupt (document.withEdges (earlier ++ second :: first :: later)) =
        .ok swapped :=
    assemble_succeeds registered header swappedOk
  obtain ⟨swapped, assembles⟩ := assembles
  have recordsToo := assemble_dependencies assembles
  obtain ⟨_, _, _, _, registeredToo, headerToo, resolvedToo, rfl⟩ := assemble_eq_ok assembles
  cases registered.symm.trans registeredToo
  cases header.symm.trans headerToo
  cases swappedOk.symm.trans resolvedToo
  refine ⟨_, assembles, ?_, ?_, swaps.report.append_left _⟩
  · simp only [resolveEdges, sameRoot, sameHarvest, Document.withEdges]
  · rw [records, recordsToo]
    exact dependencyRecords_swap independent (resolvedRoot document) earlier later

/-- Edges that name no reference in common commute. Outside strict mode, if a conversion succeeds,
then so does the one of the document with two such adjacent edges in the opposite order. Its root
tree, its top-level components and everything else of its document are the same, except that the
dependency records of the two edges trade places where both gave one, and its report has the same
entries. -/
theorem convert_swap {behavior : Behavior} {document : Document} {converted : Converted}
    {earlier later : List Edge} (lenient : behavior.strict = false)
    (position : document.nodeList.edges = earlier ++ first :: second :: later)
    (independent : first.Independent second)
    (succeeds : convert behavior interrupt document = .ok converted) :
    ∃ swapped,
      convert behavior interrupt
        (document.withEdges (earlier ++ second :: first :: later)) = .ok swapped ∧
      converted.SwapsTo (resolvedRoot document) earlier first second swapped := by
  obtain ⟨original, assembles, rfl⟩ := convert_eq_ok succeeds
  obtain ⟨swapped, assemblesSwapped, swaps⟩ := assemble_swap position independent assembles
  rw [convert_of_assemble_ok behavior assemblesSwapped, lenient, applyStrict_false]
  refine ⟨_, rfl, ?_⟩
  split
  · exact swaps.clearGenerated behavior.generatedMark
  · exact swaps

/-- A document with two dependency edges that name nothing in common. The source of the first one is
nested afterwards, the second one repeats a target. -/
def pairedDocument : Document where
  nodeList := {
    nodes := [{ id := "app" }, { id := "lib" }, { id := "part" }, { id := "tool" }, { id := "doc" }]
    edges := [
      ⟨"app", .describes, ["lib"]⟩,
      ⟨"lib", .dependsOn, ["part", "part"]⟩,
      ⟨"tool", .dependsOn, ["doc", "doc"]⟩,
      ⟨"app", .contains, ["lib"]⟩,
      ⟨"lib", .contains, ["doc"]⟩]
    rootElements := ["app"] }

theorem convert_pairedDocument_swap :
    ({} : Behavior).strict = false ∧
    pairedDocument.nodeList.edges =
      [⟨"app", .describes, ["lib"]⟩] ++
        ⟨"lib", .dependsOn, ["part", "part"]⟩ :: ⟨"tool", .dependsOn, ["doc", "doc"]⟩ ::
        [⟨"app", .contains, ["lib"]⟩, ⟨"lib", .contains, ["doc"]⟩] ∧
    Graph.Edge.Independent ⟨"lib", .dependsOn, ["part", "part"]⟩
      ⟨"tool", .dependsOn, ["doc", "doc"]⟩ ∧
    ∃ converted swapped,
      convert {} {} pairedDocument = .ok converted ∧
      convert {} {} (pairedDocument.withEdges [
        ⟨"app", .describes, ["lib"]⟩,
        ⟨"tool", .dependsOn, ["doc", "doc"]⟩,
        ⟨"lib", .dependsOn, ["part", "part"]⟩,
        ⟨"app", .contains, ["lib"]⟩,
        ⟨"lib", .contains, ["doc"]⟩]) = .ok swapped ∧
      converted.bom.dependencies = [⟨"lib", ["part"]⟩, ⟨"tool", ["doc"]⟩] ∧
      swapped.bom = { converted.bom with dependencies := [⟨"tool", ["doc"]⟩, ⟨"lib", ["part"]⟩] } ∧
      swapped.report.Perm converted.report := by
  have position : pairedDocument.nodeList.edges =
      [⟨"app", .describes, ["lib"]⟩] ++
        ⟨"lib", .dependsOn, ["part", "part"]⟩ :: ⟨"tool", .dependsOn, ["doc", "doc"]⟩ ::
        [⟨"app", .contains, ["lib"]⟩, ⟨"lib", .contains, ["doc"]⟩] := rfl
  have independent : Graph.Edge.Independent ⟨"lib", .dependsOn, ["part", "part"]⟩
      ⟨"tool", .dependsOn, ["doc", "doc"]⟩ := by
    simp [Graph.Edge.Independent, Graph.Edge.endpoints]
  obtain ⟨swapped, converts, swaps⟩ := convert_swap rfl position independent
    (rfl : convert {} {} pairedDocument = .ok _)
  have records : swapped.bom.dependencies = [⟨"tool", ["doc"]⟩, ⟨"lib", ["part"]⟩] := by
    obtain ⟨after, original, traded⟩ := swaps.dependencies
    have noneBefore : dependencyRecords
        (takenEdges (resolvedRoot pairedDocument) [⟨"app", .describes, ["lib"]⟩]) = [] := by decide
    have ofLib : recordBehind (resolvedRoot pairedDocument) [⟨"app", .describes, ["lib"]⟩]
        ⟨"lib", .dependsOn, ["part", "part"]⟩ = some ⟨"lib", ["part"]⟩ := by decide
    have ofTool : recordBehind (resolvedRoot pairedDocument) [⟨"app", .describes, ["lib"]⟩]
        ⟨"tool", .dependsOn, ["doc", "doc"]⟩ = some ⟨"tool", ["doc"]⟩ := by decide
    rw [noneBefore, ofLib, ofTool] at original traded
    have noneAfter : [] = after := (List.cons.inj (List.cons.inj original).2).2
    rw [traded, ← noneAfter]
    rfl
  refine ⟨rfl, position, independent, _, swapped, rfl, converts, rfl, ?_, swaps.report⟩
  rw [swaps.bom, records]

end Conversion

end Sbom
