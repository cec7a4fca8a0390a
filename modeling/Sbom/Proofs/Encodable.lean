import Sbom.Proofs.Occurrence
import Sbom.Proofs.Validity

/-!
# Converted documents can be written

A conversion that succeeds gives a sound document: the emitted trees hold every registered reference
at most once, and clearing generated references only makes more of them empty. An encoding of it can
therefore fail for one reason only, a character that XML cannot carry.
-/

namespace Sbom.Conversion

open CycloneDx (Bom Component ComponentDetails Defect Encoding Sink SpecVersion)
open Sbom.Graph (Document)
open Settings (Behavior)

/-- A converted document is sound before generated references are cleared. -/
theorem Outlined.isSound {document : Document} {bom : Bom} (outlined : Outlined document bom) :
    bom.IsSound where
  distinct := by
    obtain ⟨unnamed, areEmpty, refs⟩ := outlined.refs
    have noneUnnamed : (unnamed.filter fun ref => ref ≠ "") = [] := by
      rw [List.filter_eq_nil_iff]
      intro ref isUnnamed
      simpa using areEmpty ref isUnnamed
    rw [refs, List.filter_append, noneUnnamed, List.nil_append]
    exact List.Nodup.filter _ outlined.nodup_emittedRefs.1
  recordsNamed := by
    intro record member
    rw [outlined.dependencies] at member
    exact (mem_registeredIds_iff.mp (outlined.dependenciesWithin record member).1).1

/-- Clearing generated references changes each component by itself. -/
theorem clearGenerated_trees (mark : String) (converted : Converted) :
    (clearGenerated mark converted).bom.trees =
      Tree.mapAll (clearGeneratedRef mark) converted.bom.trees := by
  show (converted.bom.metadata.component.map (Tree.map (clearGeneratedRef mark))).toList ++
    Tree.mapAll (clearGeneratedRef mark) converted.bom.components = _
  rw [Bom.trees]
  cases converted.bom.metadata.component <;> rfl

/-- Clearing generated references empties them and keeps all others in place. -/
theorem clearGenerated_refs (mark : String) (converted : Converted) :
    (clearGenerated mark converted).bom.refs =
      converted.bom.refs.map fun ref => if isGeneratedRef ref mark then "" else ref := by
  have sameRef : ComponentDetails.ref ∘ clearGeneratedRef mark =
      (fun ref => if isGeneratedRef ref mark then "" else ref) ∘ ComponentDetails.ref := by
    funext details
    simp only [Function.comp_apply, clearGeneratedRef]
    split <;> rfl
  rw [Bom.refs, Bom.refs, clearGenerated_trees, Tree.valuesAll_mapAll, List.map_map, List.map_map,
    sameRef]

/-- Emptying some texts leaves the others in order. -/
theorem filter_cleared_sublist (clears : String → Bool) (refs : List String) :
    ((refs.map fun ref => if clears ref then "" else ref).filter fun ref => ref ≠ "").Sublist
      (refs.filter fun ref => ref ≠ "") := by
  induction refs with
  | nil => exact .slnil
  | cons ref rest inductionHypothesis =>
      rw [List.map_cons]
      by_cases cleared : clears ref = true
      · rw [if_pos cleared, List.filter_cons_of_neg (by simp)]
        exact inductionHypothesis.trans ((List.sublist_cons_self ref rest).filter _)
      · rw [if_neg cleared]
        by_cases isEmpty : ref = ""
        · simpa [isEmpty] using inductionHypothesis
        · simpa [isEmpty] using inductionHypothesis

/-- A conversion that succeeds gives a sound document, whatever it clears. -/
theorem convert_isSound {behavior : Behavior} {interrupt : Interrupt} {document : Document}
    {converted : Converted} (succeeds : convert behavior interrupt document = .ok converted) :
    converted.bom.IsSound := by
  obtain ⟨assembled, assembles, same⟩ := convert_eq_ok succeeds
  have sound := (assemble_outlined assembles).isSound
  by_cases clears : behavior.clearGeneratedRefs = true
  · rw [if_pos clears] at same
    subst same
    refine ⟨?_, sound.recordsNamed⟩
    rw [clearGenerated_refs]
    exact sound.distinct.sublist (filter_cleared_sublist _ _)
  · rw [if_neg clears] at same
    subst same
    exact sound

/-- Every converted document can be written: it passes the structural check, as JSON it is written
into any output without a bound, and as XML it is refused exactly for a character that XML cannot
carry. -/
theorem convert_encodable {behavior : Behavior} {interrupt : Interrupt} {document : Document}
    {converted : Converted} (succeeds : convert behavior interrupt document = .ok converted) :
    (converted.bom.refs.filter fun ref => ref ≠ "").Nodup ∧
    (∀ record ∈ converted.bom.dependencies, record.ref ≠ "") ∧
    converted.bom.structuralDefect? = none ∧
    ∀ (version encoding : String) (target : SpecVersion) (sink : Sink),
      SpecVersion.parse version = .ok target → sink.bound = none →
      (Encoding.parse encoding = .ok .json →
        (converted.bom.encode version encoding sink).2 = .ok ()) ∧
      (Encoding.parse encoding = .ok .xml →
        ((converted.bom.encode version encoding sink).2 = .ok () ↔ converted.bom.IsXmlText) ∧
        ∀ failure, (converted.bom.encode version encoding sink).2 = .error failure →
          ∃ text ∈ CycloneDx.stringsOf converted.bom.toJson, ∃ c ∈ text.toList,
            ¬Xml.IsChar c ∧
            failure = .encoding "validating document" (.invalidDocument
              ("character U+" ++ String.ofList (Text.hexUpperPadded 4 c.toNat) ++ " in '" ++
                Text.shown text ++ "' cannot be written as XML"))) := by
  have sound := convert_isSound succeeds
  have noStructural := converted.bom.structuralDefect?_eq_none_iff.mpr sound
  refine ⟨sound.distinct, sound.recordsNamed, noStructural, ?_⟩
  intro version encoding target sink versionParses unbounded
  constructor
  · intro isJson
    have valid : converted.bom.defect? .json = none := by simp [Bom.defect?, noStructural]
    exact Bom.encode_of_valid versionParses isJson valid unbounded
  · intro isXml
    have defectIs : converted.bom.defect? .xml = converted.bom.characterDefect? := by
      simp [Bom.defect?, noStructural]
    have textIff := converted.bom.characterDefect?_eq_none_iff
    cases found : converted.bom.characterDefect? with
    | none =>
        have written := Bom.encode_of_valid versionParses isXml (defectIs.trans found) unbounded
        rw [written]
        exact ⟨iff_of_true rfl (textIff.mp found), fun failure fails => by cases fails⟩
    | some defect =>
        obtain ⟨text, isText, c, isChar, notXml, rfl⟩ := Bom.characterDefect?_eq_some found
        rw [Bom.encode_of_defect versionParses isXml (defectIs.trans found)]
        constructor
        · refine iff_of_false (fun written => by cases written) fun isXmlText => ?_
          rw [textIff.mpr isXmlText] at found
          cases found
        · intro failure fails
          cases fails
          exact ⟨text, isText, c, isChar, notXml, rfl⟩

/-- A document with two generated references, in which a node repeats an id and containment runs in a
circle. -/
def generatedDocument : Document where
  nodeList := {
    nodes := [{ id := "app" }, { id := "protobom-auto--1" }, { id := "protobom-auto--2" },
      { id := "app" }]
    edges := [
      ⟨"protobom-auto--1", .contains, ["protobom-auto--2"]⟩,
      ⟨"protobom-auto--2", .contains, ["protobom-auto--1"]⟩,
      ⟨"app", .dependsOn, ["protobom-auto--1"]⟩,
      ⟨"app", .contains, ["protobom-auto--1", "app"]⟩]
    rootElements := ["app"] }

theorem convert_generatedDocument_encodable :
    ∃ converted, convert {} {} generatedDocument = .ok converted ∧
      converted.bom.refs = ["app", "", ""] ∧ converted.bom.structuralDefect? = none ∧
      SpecVersion.parse "v1.5" = .ok .v1_5 ∧ Encoding.parse " JSON" = .ok .json ∧
      (converted.bom.encode "v1.5" " JSON" {}).2 = .ok () := by
  refine ⟨_, rfl, rfl, ?_⟩
  obtain ⟨_, _, sound, encodes⟩ :=
    convert_encodable (rfl : convert {} {} generatedDocument = .ok _)
  have versionParses : SpecVersion.parse "v1.5" = .ok .v1_5 := by rfl
  have encodingParses : Encoding.parse " JSON" = .ok .json := by rfl
  exact ⟨sound, versionParses, encodingParses,
    (encodes "v1.5" " JSON" .v1_5 {} versionParses rfl).1 encodingParses⟩

end Sbom.Conversion
