import Sbom.Proofs.Assembly

/-!
# Every edge is accounted for

The report of a resolution is a list of blocks, one for each edge in order. `EdgeAccounted` says
what the block of an edge can be, together with everything else the edge does: it is skipped, it has
no place in a tree, it nests or reports each of its targets, or it gives one dependency record. No
edge and no target is lost without an entry, and none that takes effect is reported.

The relations are about registries in any state, also about those that no document leads to.
-/

namespace Sbom.Conversion

open CycloneDx (Component Dependency)
open Sbom.Graph (Document Edge)
open Settings (Behavior)

variable {registry : Registry} {source target : String} {edge : Edge}

/-- The entry of a skipped edge names its source and shows the whole edge. -/
theorem skippedEdge_eq (edge : Edge) :
    skippedEdge edge = ⟨.skippedEdge, some edge.source,
      "source is already attached elsewhere, edge '" ++ edge.source ++ " --" ++ edge.kind.name ++
        "--> [" ++ ", ".intercalate edge.targets ++ "]' was skipped"⟩ := by
  have closing : "]' was skipped" = "]" ++ "' was skipped" := rfl
  rw [skippedEdge, Degradation.atNode, Edge.shown, closing]
  simp only [String.append_assoc]

/-- What a conversion reports up to its edges: the losses of its nodes, those of its root, and then
those of its edges. -/
theorem convert_report_prefix {behavior : Behavior} {interrupt : Interrupt} {document : Document}
    {converted : Converted} (succeeds : convert behavior interrupt document = .ok converted) :
    ∃ registry nodeReport dependencies,
      registerNodes interrupt document.nodeList.nodes = .ok (registry, nodeReport) ∧
      (resolveEdges interrupt document.nodeList.edges
        (resolveRoot registry document.nodeList.rootElements).1).result = .ok dependencies ∧
      converted.bom.dependencies = dependencies ∧
      nodeReport ++ (resolveRoot registry document.nodeList.rootElements).2.2 ++
        (resolveEdges interrupt document.nodeList.edges
          (resolveRoot registry document.nodeList.rootElements).1).report <+:
        converted.report := by
  obtain ⟨assembled, assembles, same⟩ := convert_eq_ok succeeds
  obtain ⟨registry, nodeReport, metadata, dependencies, registered, _, resolved, rfl⟩ :=
    assemble_eq_ok assembles
  refine ⟨registry, nodeReport, dependencies, registered, resolved, ?_⟩
  by_cases clears : behavior.clearGeneratedRefs = true
  · rw [same, if_pos clears]
    exact ⟨rfl, List.prefix_append _ _⟩
  · rw [same, if_neg clears]
    exact ⟨rfl, List.prefix_rfl⟩

end Sbom.Conversion
