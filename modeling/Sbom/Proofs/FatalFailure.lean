import Mathlib.Data.List.DropRight
import Sbom.Proofs.Dangling

/-!
# When a conversion fails

A conversion fails for one of five reasons, and the first of them in a fixed order decides the
failure: it is stopped before a node, a classification stands for no stage of life, it is stopped
before an edge, an edge that is not skipped lacks a reference, or strict mode meets a loss.
`FatalFailure` states the first four by the document and the interrupt alone, each with the earlier
ones excluded. Nothing else makes a conversion fail.
-/

namespace Sbom.Text

/-- Trimming leaves nothing exactly of a text of white space. -/
theorem trimmed_eq_nil_iff (text : List Char) :
    trimmed text = [] ↔ ∀ c ∈ text, isBlank c = true := by
  have fromEnd : trimmed text = (text.dropWhile isBlank).rdropWhile isBlank := rfl
  rw [fromEnd, List.rdropWhile_eq_nil_iff, ← List.dropWhile_eq_nil_iff, List.dropWhile_idempotent,
    List.dropWhile_eq_nil_iff]

theorem trim_isEmpty (text : String) : (trim text).isEmpty = isAllBlank text := by
  rw [Bool.eq_iff_iff, isAllBlank, List.all_eq_true, ← trimmed_eq_nil_iff, trim]
  simp

end Sbom.Text

namespace Sbom.Conversion

open CycloneDx (Dependency Lifecycle)
open Sbom.Graph (Document DocumentType Edge Node)
open Settings (Behavior)

/-- The wording of an interruption of a stage; the flag is looked at before the deadline. -/
def Interrupt.reason (interrupt : Interrupt) (stage : String) : String :=
  if interrupt.flagSet then "cancelled during " ++ stage else "deadline exceeded during " ++ stage

/-- Whether a stage is interrupted: the conversion is to stop, and the stage has something to do. -/
def Interrupt.Stops {α : Type} (interrupt : Interrupt) (work : List α) : Prop :=
  interrupt.isTriggered = true ∧ work ≠ []

/-- Whether a classification stands for no stage of life: it is not known, or it is to be given by
its name and the name is missing or blank. -/
def IsUnmappable (entry : DocumentType) : Prop :=
  entry.kind = some .unrecognized ∨
    entry.kind = some .other ∧ entry.name.all Text.isAllBlank = true

instance (entry : DocumentType) : Decidable (IsUnmappable entry) :=
  inferInstanceAs (Decidable (_ ∨ _))

/-- The failure of a classification that stands for no stage of life. -/
def unmappableFailure (entry : DocumentType) : Failure :=
  if entry.kind = some .other then
    .unsupportedValue "document type OTHER without a name" "OTHER"
  else .unsupportedValue "document type" (entry.name.getD "UNRECOGNIZED")

/-- The first reason, strict mode aside, for which the conversion of a document fails. -/
inductive FatalFailure (interrupt : Interrupt) (document : Document) : Failure → Prop where
  /-- The conversion is stopped before its first node. -/
  | atNodes (stops : interrupt.Stops document.nodeList.nodes) :
      FatalFailure interrupt document (.interrupted (interrupt.reason "registry population"))
  /-- The first classification without a stage of life. -/
  | atType {entry : DocumentType} (populated : ¬ interrupt.Stops document.nodeList.nodes)
      (first : (document.metadata.documentTypes.find? fun entry => IsUnmappable entry) =
        some entry) :
      FatalFailure interrupt document (unmappableFailure entry)
  /-- The conversion is stopped before its first edge. -/
  | atEdges (populated : ¬ interrupt.Stops document.nodeList.nodes)
      (mapped : ∀ entry ∈ document.metadata.documentTypes, ¬ IsUnmappable entry)
      (stops : interrupt.Stops document.nodeList.edges) :
      FatalFailure interrupt document (.interrupted (interrupt.reason "relationship resolution"))
  /-- The first edge that is not skipped and lacks a reference. -/
  | atEdge {before : List Edge} {edge : Edge} {id : String}
      (populated : ¬ interrupt.Stops document.nodeList.nodes)
      (mapped : ∀ entry ∈ document.metadata.documentTypes, ¬ IsUnmappable entry)
      (running : ¬ interrupt.Stops document.nodeList.edges)
      (dangling : FirstDangling (resolvedRoot document) (registeredIds document.nodeList.nodes)
        document.nodeList.edges before edge id) :
      FatalFailure interrupt document
        (missingRefFailure (registeredIds document.nodeList.nodes) before.length edge id)

/-- A fatal failure is an interruption, a value without a counterpart, or a missing reference. -/
theorem FatalFailure.kind {interrupt : Interrupt} {document : Document} {failure : Failure}
    (fatal : FatalFailure interrupt document failure) :
    (∃ context, failure = .interrupted context) ∨
      (∃ context value, failure = .unsupportedValue context value) ∨
      ∃ context id, failure = .lookup context id := by
  cases fatal with
  | atNodes _ => exact .inl ⟨_, rfl⟩
  | atType _ _ =>
      refine .inr (.inl ?_)
      unfold unmappableFailure
      split <;> exact ⟨_, _, rfl⟩
  | atEdges _ _ _ => exact .inl ⟨_, rfl⟩
  | atEdge _ _ _ _ => exact .inr (.inr ⟨_, _, rfl⟩)

/-- A check fails exactly if the conversion is to stop. -/
theorem Interrupt.check_eq (interrupt : Interrupt) (stage : String) :
    interrupt.check stage =
      if interrupt.isTriggered then .error (.interrupted (interrupt.reason stage)) else .ok () := by
  unfold check isTriggered reason
  cases interrupt.flagSet <;> cases interrupt.deadlinePassed <;> rfl

section Stages

variable {interrupt : Interrupt} {document : Document}

/-- Nodes are not registered if the conversion is stopped before the first of them. -/
theorem registerNodes_of_stops {nodes : List Node} (stops : interrupt.Stops nodes) :
    registerNodes interrupt nodes =
      .error (.interrupted (interrupt.reason "registry population")) := by
  obtain ⟨triggered, someNode⟩ := stops
  obtain ⟨node, rest, rfl⟩ := List.exists_cons_of_ne_nil someNode
  simp [registerNodes, registerNodesFrom, Interrupt.check_eq, triggered, bind, Except.bind]

/-- Nodes are registered if the conversion is not to stop. -/
theorem registerNodesFrom_succeeds (running : interrupt.isTriggered = false) (index : Nat)
    (nodes : List Node) (registry : Registry) :
    ∃ result, registerNodesFrom interrupt index nodes registry = .ok result := by
  induction nodes generalizing index registry with
  | nil => exact ⟨_, rfl⟩
  | cons node rest inductionHypothesis =>
      obtain ⟨result, later⟩ :=
        inductionHypothesis (index + 1) (registerNode index node registry).1
      refine ⟨(result.1, (registerNode index node registry).2 ++ result.2), ?_⟩
      simp [registerNodesFrom, Interrupt.check_eq, running, later, bind, Except.bind, pure,
        Except.pure]

theorem registerNodes_of_not_stops {nodes : List Node} (populated : ¬ interrupt.Stops nodes) :
    ∃ registry report, registerNodes interrupt nodes = .ok (registry, report) := by
  cases nodes with
  | nil => exact ⟨_, _, rfl⟩
  | cons node rest =>
      have running : interrupt.isTriggered = false := by
        rw [← Bool.not_eq_true]
        exact fun triggered => populated ⟨triggered, List.cons_ne_nil node rest⟩
      obtain ⟨⟨registry, report⟩, registered⟩ :=
        registerNodesFrom_succeeds running 0 (node :: rest) {}
      exact ⟨registry, report, registered⟩

/-- A classification without a stage of life fails, and every other one has its stage. -/
theorem lifecycle_result (entry : DocumentType) :
    (IsUnmappable entry → lifecycle entry = .error (unmappableFailure entry)) ∧
    (¬ IsUnmappable entry → ∃ stage, lifecycle entry = .ok stage) := by
  obtain ⟨kind, name, description⟩ := entry
  have blankName : (Text.trim (name.getD "")).isEmpty = name.all Text.isAllBlank := by
    rw [Text.trim_isEmpty]
    cases name <;> rfl
  cases kind with
  | none => simp [IsUnmappable, lifecycle]
  | some kind =>
      cases kind with
      | other =>
          simp only [IsUnmappable, lifecycle, lifecyclePhase, blankName, unmappableFailure]
          by_cases blank : name.all Text.isAllBlank = true
          · simp [blank, Except.map, Graph.DocumentKind.name]
          · simp [blank, Except.map]
      | unrecognized =>
          simp [IsUnmappable, lifecycle, lifecyclePhase, unmappableFailure, Except.map,
            Graph.DocumentKind.name]
      | _ => simp [IsUnmappable, lifecycle, lifecyclePhase, Except.map]

/-- The first classification without a stage of life decides the failure of all of them. -/
theorem lifecycles_result (entries : List DocumentType) :
    (∀ entry, (entries.find? fun entry => IsUnmappable entry) = some entry →
      lifecycles entries = .error (unmappableFailure entry)) ∧
    ((∀ entry ∈ entries, ¬ IsUnmappable entry) → ∃ stages, lifecycles entries = .ok stages) := by
  induction entries with
  | nil => exact ⟨fun entry first => (by cases first), fun _ => ⟨[], rfl⟩⟩
  | cons entry rest inductionHypothesis =>
      obtain ⟨fails, succeeds⟩ := inductionHypothesis
      obtain ⟨failsHere, succeedsHere⟩ := lifecycle_result entry
      constructor
      · intro first isFirst
        by_cases unmappable : IsUnmappable entry
        · rw [List.find?_cons_of_pos (by simpa using unmappable)] at isFirst
          cases isFirst
          simp [lifecycles, failsHere unmappable, bind, Except.bind]
        · rw [List.find?_cons_of_neg (by simpa using unmappable)] at isFirst
          obtain ⟨stage, mapped⟩ := succeedsHere unmappable
          simp [lifecycles, mapped, fails first isFirst, bind, Except.bind]
      · intro mappable
        obtain ⟨stage, mapped⟩ := succeedsHere (mappable entry List.mem_cons_self)
        obtain ⟨stages, mappedRest⟩ := succeeds fun other member =>
          mappable other (List.mem_cons_of_mem _ member)
        exact ⟨stage :: stages, by
          simp [lifecycles, mapped, mappedRest, bind, Except.bind, pure, Except.pure]⟩

/-- Edges are not resolved if the conversion is stopped before the first of them. -/
theorem resolveEdges_of_stops {edges : List Edge} (stops : interrupt.Stops edges)
    (registry : Registry) :
    (resolveEdges interrupt edges registry).result =
      .error (.interrupted (interrupt.reason "relationship resolution")) := by
  obtain ⟨triggered, someEdge⟩ := stops
  obtain ⟨edge, rest, rfl⟩ := List.exists_cons_of_ne_nil someEdge
  simp [resolveEdges, resolveEdgesFrom, edgeStep, Interrupt.check_eq, triggered]

/-- Edges are resolved if the conversion is not stopped before them and those that are not skipped
lack no reference. -/
theorem resolveEdges_of_complete {root : Option String} {ids : List String} {edges : List Edge}
    {registry : Registry} {record : String → CycloneDx.Component}
    (represents : Represents ids record { root } registry) (named : Forest.Named ids record)
    (running : ¬ interrupt.Stops edges)
    (complete : ∀ edge ∈ takenEdges root edges, missingRef? ids edge = none) :
    ∃ dependencies, (resolveEdges interrupt edges registry).result = .ok dependencies := by
  by_cases triggered : interrupt.isTriggered = true
  · have noEdge : edges = [] := by
      by_contra someEdge
      exact running ⟨triggered, someEdge⟩
    subst noEdge
    exact ⟨[], rfl⟩
  · have passes : interrupt.check "relationship resolution" = .ok () := by
      rw [Interrupt.check_eq, if_neg triggered]
    exact represents.resolveEdgesFrom_succeeds named (Outline.ofEdges_follows root []) passes 0
      edges complete

end Stages

section Assembly

variable {interrupt : Interrupt} {document : Document} {failure : Failure}

/-- With its nodes registered and its header mapped, a conversion fails or succeeds as the resolution
of its edges does. -/
theorem assemble_of_resolveEdges (populated : ¬ interrupt.Stops document.nodeList.nodes)
    (mapped : ∀ entry ∈ document.metadata.documentTypes, ¬ IsUnmappable entry) :
    ∃ registry,
      Represents (registeredIds document.nodeList.nodes) (recordOf document.nodeList.nodes)
        { root := resolvedRoot document } registry ∧
      (∀ failure,
        (resolveEdges interrupt document.nodeList.edges registry).result = .error failure →
        assemble interrupt document = .error failure) ∧
      (∀ dependencies,
        (resolveEdges interrupt document.nodeList.edges registry).result = .ok dependencies →
        ∃ assembled, assemble interrupt document = .ok assembled) := by
  obtain ⟨registry, nodeReport, registered⟩ := registerNodes_of_not_stops populated
  obtain ⟨stages, header⟩ := (lifecycles_result document.metadata.documentTypes).2 mapped
  have start := (resolveRoot_represents (registerNodes_populated registered)).1
  have mappedHeader : ∃ metadata, documentMetadata document.metadata = .ok metadata := by
    simp [documentMetadata, header, bind, Except.bind, pure, Except.pure]
  obtain ⟨metadata, mappedHeader⟩ := mappedHeader
  refine ⟨_, start, fun failure fails => ?_, fun dependencies resolved =>
    assemble_succeeds registered mappedHeader resolved⟩
  simp [assemble, registered, mappedHeader, fails, bind, Except.bind]

/-- A fatal failure ends the conversion before generated references are cleared. -/
theorem FatalFailure.assemble_eq (fatal : FatalFailure interrupt document failure) :
    assemble interrupt document = .error failure := by
  cases fatal with
  | atNodes stops =>
      simp [assemble, registerNodes_of_stops stops, bind, Except.bind]
  | atType populated first =>
      obtain ⟨registry, nodeReport, registered⟩ := registerNodes_of_not_stops populated
      have header := (lifecycles_result document.metadata.documentTypes).1 _ first
      simp [assemble, registered, documentMetadata, header, bind, Except.bind]
  | atEdges populated mapped stops =>
      obtain ⟨registry, _, failsToo, _⟩ := assemble_of_resolveEdges populated mapped
      exact failsToo _ (resolveEdges_of_stops stops registry)
  | atEdge populated mapped running dangling =>
      obtain ⟨registry, start, failsToo, _⟩ := assemble_of_resolveEdges populated mapped
      have passes : interrupt.check "relationship resolution" = .ok () := by
        obtain ⟨after, isEdges⟩ := dangling.position
        rw [Interrupt.check_eq, if_neg]
        intro triggered
        exact running ⟨triggered, by simp [isEdges]⟩
      exact failsToo _ (start.resolveEdges_fails (recordOf_named _) passes dangling)

/-- Without a fatal failure the conversion comes to the point where generated references are
cleared. -/
theorem assemble_of_not_fatal (noFatal : ∀ failure, ¬ FatalFailure interrupt document failure) :
    ∃ assembled, assemble interrupt document = .ok assembled := by
  have populated : ¬ interrupt.Stops document.nodeList.nodes := fun stops =>
    noFatal _ (.atNodes stops)
  have mapped : ∀ entry ∈ document.metadata.documentTypes, ¬ IsUnmappable entry := by
    cases first : document.metadata.documentTypes.find? fun entry => IsUnmappable entry with
    | none => simpa using List.find?_eq_none.mp first
    | some entry => exact absurd (.atType populated first) (noFatal _)
  have running : ¬ interrupt.Stops document.nodeList.edges := fun stops =>
    noFatal _ (.atEdges populated mapped stops)
  rcases complete_or_firstDangling (resolvedRoot document) (registeredIds document.nodeList.nodes)
    document.nodeList.edges with complete | ⟨before, edge, id, dangling⟩
  · obtain ⟨registry, start, _, succeedsToo⟩ := assemble_of_resolveEdges populated mapped
    obtain ⟨dependencies, resolved⟩ :=
      resolveEdges_of_complete start (recordOf_named _) running complete
    exact succeedsToo dependencies resolved
  · exact absurd (.atEdge populated mapped running dangling) (noFatal _)

/-- A conversion without strict mode fails exactly for a fatal failure. -/
theorem assemble_eq_error_iff :
    assemble interrupt document = .error failure ↔ FatalFailure interrupt document failure := by
  refine ⟨fun fails => ?_, FatalFailure.assemble_eq⟩
  by_cases someFatal : ∃ other, FatalFailure interrupt document other
  · -- Two fatal failures of one document are the same, as both are the result of the conversion.
    obtain ⟨other, fatal⟩ := someFatal
    cases fatal.assemble_eq.symm.trans fails
    exact fatal
  · obtain ⟨assembled, succeeds⟩ := assemble_of_not_fatal (not_exists.mp someFatal)
    cases succeeds.symm.trans fails

end Assembly

/-- When a conversion fails, and with which failure: for the first fatal failure of the document,
or, if there is none, in strict mode for the first of the losses that the same conversion reports
without strict mode. -/
theorem convert_eq_error_iff (behavior : Behavior) (interrupt : Interrupt) (document : Document)
    (failure : Failure) :
    convert behavior interrupt document = .error failure ↔
      FatalFailure interrupt document failure ∨
      (∀ other, ¬ FatalFailure interrupt document other) ∧ behavior.strict = true ∧
        ∃ converted first rest,
          convert { behavior with strict := false } interrupt document = .ok converted ∧
          converted.report = first :: rest ∧
          failure = .degraded (rest.length + 1) first.shown := by
  cases assembles : assemble interrupt document with
  | error cause =>
      have fatal := assemble_eq_error_iff.mp assembles
      rw [convert_of_assemble_error behavior assembles]
      constructor
      · intro fails
        cases fails
        exact .inl fatal
      · rintro (otherFatal | ⟨noFatal, _⟩)
        · cases otherFatal.assemble_eq.symm.trans assembles
          rfl
        · exact absurd fatal (noFatal cause)
  | ok assembled =>
      have noFatal : ∀ other, ¬ FatalFailure interrupt document other := by
        intro other fatal
        cases fatal.assemble_eq.symm.trans assembles
      have lenient := convert_of_assemble_ok { behavior with strict := false } assembles
      rw [applyStrict_false] at lenient
      rw [convert_of_assemble_ok behavior assembles, applyStrict_eq_error_iff,
        or_iff_right (noFatal failure)]
      constructor
      · rintro ⟨strict, first, rest, lost, rfl⟩
        exact ⟨noFatal, strict, _, first, rest, lenient, lost, rfl⟩
      · rintro ⟨_, strict, converted, first, rest, succeeds, lost, rfl⟩
        cases lenient.symm.trans succeeds
        exact ⟨strict, first, rest, lost, rfl⟩

/-- A document in which a skipped edge and one without a place in a tree name a reference that no
node has, before a dependency lacks two of its targets. -/
def danglingDocument : Document where
  nodeList := {
    nodes := [{ id := "app" }, { id := "lib" }]
    edges := [
      ⟨"app", .contains, ["lib"]⟩,
      ⟨"lib", .dependsOn, ["ghost"]⟩,
      ⟨"app", .describes, ["ghost"]⟩,
      ⟨"app", .dependsOn, ["lib", "gone", "ghost"]⟩,
      ⟨"ghost", .contains, ["app"]⟩] }

theorem convert_danglingDocument_fails :
    convert { strict := true } {} danglingDocument =
      .error (.lookup "edge #3 (app --dependsOn--> [lib, gone, ghost]): dependency target"
        "gone") := by
  have runs : ∀ {α : Type} (work : List α), ¬ ({} : Interrupt).Stops work :=
    fun work stops => Bool.false_ne_true stops.1
  have dangling : FirstDangling (resolvedRoot danglingDocument)
      (registeredIds danglingDocument.nodeList.nodes) danglingDocument.nodeList.edges
      (danglingDocument.nodeList.edges.take 3) ⟨"app", .dependsOn, ["lib", "gone", "ghost"]⟩
      "gone" :=
    ⟨⟨_, rfl⟩, by decide, by decide, by decide⟩
  have fatal := FatalFailure.atEdge (runs danglingDocument.nodeList.nodes) (by decide)
    (runs danglingDocument.nodeList.edges) dangling
  have place : lookupPlace (registeredIds danglingDocument.nodeList.nodes)
      ⟨"app", .dependsOn, ["lib", "gone", "ghost"]⟩ = "dependency target" := by decide
  rw [missingRefFailure, place] at fatal
  exact (convert_eq_error_iff { strict := true } {} danglingDocument _).mpr (.inl fatal)

end Sbom.Conversion
