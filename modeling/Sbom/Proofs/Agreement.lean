import Sbom.Proofs.Encodable
import Sbom.Proofs.Markup
import Sbom.Proofs.MarkupRecovery
import Sbom.Proofs.Members
import Sbom.Proofs.Regular

/-!
# What the two encodings tell

A conversion gives no empty address, no empty expression and no licence with both an identifier and a
name; so what it gives is recoverable from XML, the fractions of seconds aside. From JSON every document
is recoverable. Therefore two converted documents have the same text in one encoding exactly if they
have the same text in the other one.
-/

namespace Sbom

namespace CycloneDx

/-- What a document loses for an older version does not matter for whether it is recoverable. -/
theorem Bom.IsRecoverable.downgrade {bom : Bom} (recoverable : bom.IsRecoverable)
    (version : SpecVersion) : (bom.downgrade version).IsRecoverable := by
  unfold Bom.downgrade
  split
  · exact recoverable
  · refine ⟨recoverable.wholeSeconds, ?_⟩
    rw [trees_withoutRecentParts, Tree.valuesAll_mapAll, List.forall_mem_map]
    intro details member
    obtain ⟨supplier, licenses⟩ := recoverable.components details member
    unfold ComponentDetails.withoutRecentType
    split <;> exact ⟨supplier, licenses⟩

section Written

variable {bom other : Bom} {version encoding : String} {text otherText : List Char}

/-- JSON output is read as the envelope of the document. -/
theorem Bom.Written.parse?_eq {target : SpecVersion} (written : bom.Written version encoding text)
    (known : SpecVersion.parse version = .ok target)
    (isJson : Encoding.parse encoding = .ok .json) :
    Json.parse? text = some ((bom.downgrade target).envelope target) := by
  rw [written.text_eq known isJson]
  exact Json.parse?_pretty ((bom.downgrade target).isTidy_envelope target)
    (List.forall_mem_singleton.mpr rfl)

/-- Two documents are written as the same JSON exactly if the same is written of them. -/
theorem Bom.Written.json_eq_iff {target : SpecVersion} (known : SpecVersion.parse version = .ok target)
    (isJson : Encoding.parse encoding = .ok .json) (written : bom.Written version encoding text)
    (otherWritten : other.Written version encoding otherText) :
    text = otherText ↔ (bom.downgrade target).plain = (other.downgrade target).plain := by
  have reads := written.parse?_eq known isJson
  have otherReads := otherWritten.parse?_eq known isJson
  rw [← Bom.members_eq_iff]
  constructor
  · intro same
    have envelopes := Option.some.inj (reads.symm.trans (same ▸ otherReads))
    simpa [Bom.envelope] using envelopes
  · intro same
    rw [written.text_eq known isJson, otherWritten.text_eq known isJson, Bom.written, Bom.written,
      Bom.bodyPieces, Bom.bodyPieces, Bom.envelope, Bom.envelope, same]

/-- Two recoverable documents are written as the same XML exactly if the same is written of them. -/
theorem Bom.Written.xml_eq_iff {target : SpecVersion} (known : SpecVersion.parse version = .ok target)
    (isXml : Encoding.parse encoding = .ok .xml) (written : bom.Written version encoding text)
    (otherWritten : other.Written version encoding otherText) (recoverable : bom.IsRecoverable)
    (otherRecoverable : other.IsRecoverable) :
    text = otherText ↔ (bom.downgrade target).plain = (other.downgrade target).plain := by
  obtain ⟨_, versionParses, isDocument⟩ := written.isDocument isXml
  obtain ⟨_, otherParses, isOther⟩ := otherWritten.isDocument isXml
  cases known.symm.trans versionParses
  cases known.symm.trans otherParses
  rw [← Bom.element_eq_iff (recoverable.downgrade target) (otherRecoverable.downgrade target)]
  constructor
  · intro same
    exact Xml.root_eq_of_isDocument ((bom.downgrade target).isRegular target)
      ((other.downgrade target).isRegular target) isDocument (same ▸ isOther)
  · intro same
    rw [written.text_eq known isXml, otherWritten.text_eq known isXml, Bom.written, Bom.written,
      Bom.bodyPieces, Bom.bodyPieces, same]

end Written

end CycloneDx

namespace Conversion

open CycloneDx (Bom Component ComponentDetails Encoding SpecVersion)
open Sbom.Graph (Document Node Person)
open Settings (Behavior)

section Recoverable

theorem licenseId?_ne_empty {text : List Char} {id : String}
    (listed : License.licenseId? text = some id) : id ≠ "" := by
  have noneEmpty : "" ∉ License.licenseIds := by decide +kernel
  rintro rfl
  unfold License.licenseId? at listed
  exact noneEmpty (List.mem_of_find?_eq_some listed)

/-- A licence text becomes an identifier, a name, or an expression of at least two words. -/
theorem licenseChoice_isRecoverable (license : String) : (licenseChoice license).IsRecoverable := by
  simp only [licenseChoice]
  split
  case h_1 id listed => exact licenseId?_ne_empty listed
  case h_2 =>
    split
    case isTrue expression =>
      intro isEmpty
      have noText : Text.trimmed license.toList = [] := by
        simpa using congrArg String.toList isEmpty
      rw [noText] at expression
      exact absurd expression.1 (by decide)
    case isFalse => exact trivial

theorem organization_isRecoverable (supplier : Person) : (organization supplier).IsRecoverable := by
  intro url member
  unfold organization at member
  split at member
  case isTrue => cases member
  case isFalse notEmpty =>
    rw [List.mem_singleton.mp member]
    simpa using notEmpty

theorem mappedComponent_isRecoverable (node : Node) :
    (mappedComponent node).value.IsRecoverable where
  supplier := by
    intro supplier member
    obtain ⟨person, -, rfl⟩ := Option.map_eq_some_iff.mp member
    exact organization_isRecoverable person
  licenses := List.forall_mem_map.mpr fun license _ => licenseChoice_isRecoverable license

/-- A component without supplier and licences is recoverable. -/
theorem isRecoverable_of_none {details : ComponentDetails} (noSupplier : details.supplier = none)
    (noLicenses : details.licenses = []) : details.IsRecoverable where
  supplier := by simp [noSupplier]
  licenses := by simp [noLicenses]

theorem recordOf_isRecoverable (nodes : List Node) (id : String) :
    (recordOf nodes id).value.IsRecoverable := by
  unfold recordOf
  split
  case h_1 component report found =>
    obtain ⟨node, -, mapped⟩ := Option.bind_eq_some_iff.mp found
    obtain ⟨_, rfl, _⟩ := mapNode_eq_some_iff.mp mapped
    exact mappedComponent_isRecoverable node
  case h_2 => exact isRecoverable_of_none rfl rfl

/-- Unfolding a forest uses no components but the records. -/
theorem exists_record_of_mem_values_unfold (forest : Forest) (record : String → Component)
    (depth : Nat) : ∀ id, ∀ details ∈ (forest.unfold record depth id).values,
      ∃ other, details = (record other).value := by
  induction depth with
  | zero =>
      intro id details member
      rw [Forest.unfold, Tree.leaf, Tree.values_node] at member
      exact ⟨id, by simpa using member⟩
  | succ depth inductionHypothesis =>
      intro id details member
      rw [Forest.unfold, Tree.values_node, List.mem_cons, Tree.valuesAll_eq_flatMap,
        List.mem_flatMap] at member
      rcases member with rfl | ⟨tree, isContent, inside⟩
      · exact ⟨id, rfl⟩
      · obtain ⟨content, -, rfl⟩ := List.mem_map.mp isContent
        exact inductionHypothesis content details inside

theorem treeOf_isRecoverable (document : Document) (id : String) :
    ∀ details ∈ (treeOf document id).values, details.IsRecoverable := by
  intro details member
  obtain ⟨other, rfl⟩ := exists_record_of_mem_values_unfold _ _ _ id details member
  exact recordOf_isRecoverable document.nodeList.nodes other

/-- A name for the root component does not matter for whether the document is recoverable. -/
theorem applyName_isRecoverable {root : Option Component} {name : String}
    (recoverable : ∀ details ∈ Tree.valuesAll root.toList, details.IsRecoverable) :
    ∀ details ∈ Tree.valuesAll (applyName root name).toList, details.IsRecoverable := by
  obtain kept | ⟨component, rfl, renamed⟩ | ⟨rfl, bare⟩ := applyName_cases root name
  · rwa [kept]
  · rw [renamed]
    rw [Option.toList_some, Tree.valuesAll_cons, Tree.valuesAll_nil, List.append_nil,
      Tree.values_eq, List.forall_mem_cons] at recoverable ⊢
    exact ⟨⟨recoverable.1.supplier, recoverable.1.licenses⟩, recoverable.2⟩
  · rw [bare]
    intro details member
    simp only [Option.toList_some, Tree.valuesAll_cons, Tree.valuesAll_nil, List.append_nil,
      Component.bare, Tree.leaf, Tree.values_node, List.mem_singleton] at member
    subst member
    exact isRecoverable_of_none rfl rfl

/-- The trees of an outlined document are recoverable. -/
theorem Outlined.trees_isRecoverable {document : Document} {bom : Bom}
    (outlined : Outlined document bom) :
    ∀ details ∈ Tree.valuesAll bom.trees, details.IsRecoverable := by
  rw [Bom.trees, Tree.valuesAll_append, List.forall_mem_append, outlined.root, outlined.components]
  constructor
  · refine applyName_isRecoverable ?_
    cases resolvedRoot document with
    | none => simp
    | some id => simpa using treeOf_isRecoverable document id
  · rw [Tree.valuesAll_eq_flatMap, List.forall_mem_flatMap, List.forall_mem_map]
    exact fun id _ => treeOf_isRecoverable document id

/-- What a conversion gives is recoverable, if its time has no fraction of a second. -/
theorem convert_isRecoverable {behavior : Behavior} {interrupt : Interrupt} {document : Document}
    {converted : Converted} (succeeds : convert behavior interrupt document = .ok converted)
    (wholeSeconds : ∀ instant ∈ converted.bom.metadata.timestamp, instant.nanosecond = 0) :
    converted.bom.IsRecoverable := by
  refine ⟨wholeSeconds, ?_⟩
  obtain ⟨assembled, assembles, rfl⟩ := convert_eq_ok succeeds
  have recoverable := (assemble_outlined assembles).trees_isRecoverable
  split
  case isFalse => exact recoverable
  case isTrue =>
    rw [clearGenerated_trees, Tree.valuesAll_mapAll, List.forall_mem_map]
    intro details member
    obtain ⟨supplier, licenses⟩ := recoverable details member
    unfold clearGeneratedRef
    split <;> exact ⟨supplier, licenses⟩

end Recoverable

/-- The two encodings tell the same of what conversions give: with times in whole seconds, two
converted documents have the same XML exactly if they have the same JSON. -/
theorem convert_xml_eq_iff_json_eq {behavior otherBehavior : Behavior}
    {interrupt otherInterrupt : Interrupt} {document otherDocument : Document}
    {converted otherConverted : Converted}
    (succeeds : convert behavior interrupt document = .ok converted)
    (otherSucceeds : convert otherBehavior otherInterrupt otherDocument = .ok otherConverted)
    (wholeSeconds : ∀ instant ∈ converted.bom.metadata.timestamp, instant.nanosecond = 0)
    (otherWholeSeconds :
      ∀ instant ∈ otherConverted.bom.metadata.timestamp, instant.nanosecond = 0)
    {version xmlName jsonName : String} (isXml : Encoding.parse xmlName = .ok .xml)
    (isJson : Encoding.parse jsonName = .ok .json) {xml otherXml json otherJson : List Char}
    (xmlWritten : converted.bom.Written version xmlName xml)
    (otherXmlWritten : otherConverted.bom.Written version xmlName otherXml)
    (jsonWritten : converted.bom.Written version jsonName json)
    (otherJsonWritten : otherConverted.bom.Written version jsonName otherJson) :
    xml = otherXml ↔ json = otherJson := by
  have recoverable := convert_isRecoverable succeeds wholeSeconds
  have otherRecoverable := convert_isRecoverable otherSucceeds otherWholeSeconds
  obtain ⟨target, _, known, -⟩ := Bom.written_iff.mp xmlWritten
  exact (xmlWritten.xml_eq_iff known isXml otherXmlWritten recoverable otherRecoverable).trans
    (jsonWritten.json_eq_iff known isJson otherJsonWritten).symm

/-- A document with a time in whole seconds and one node that has a licence and a supplier. -/
def suppliedDocument (url : String) : Document where
  metadata := { date := some Calendar.epoch }
  nodeList := {
    nodes := [{
      id := "a", name := "b", licenses := ["MIT"],
      suppliers := [.node { name := "c", url := url } []] }]
    rootElements := ["a"] }

theorem suppliedDocument_written (url : String) (isUrl : url = "" ∨ url = "d") :
    ∃ converted, convert {} {} (suppliedDocument url) = .ok converted ∧
      (∀ instant ∈ converted.bom.metadata.timestamp, instant.nanosecond = 0) ∧
      (∃ xml, converted.bom.Written "1.5" "xml" xml) ∧
      ∃ json, converted.bom.Written "1.5" "json" json := by
  have isXml : Encoding.parse "xml" = .ok .xml := by rfl
  have isJson : Encoding.parse "json" = .ok .json := by rfl
  have known : SpecVersion.parse "1.5" = .ok .v1_5 := by rfl
  have isWritten {bom : Bom} (sound : bom.IsSound)
      (legal : ∀ text ∈ bom.texts, Xml.IsXmlString text) :
      (∃ xml, bom.Written "1.5" "xml" xml) ∧ ∃ json, bom.Written "1.5" "json" json :=
    ⟨Bom.exists_written known isXml sound legal, Bom.exists_written known isJson sound legal⟩
  rcases isUrl with rfl | rfl
  · exact ⟨_, rfl, by decide, isWritten ⟨by decide, by decide⟩ (by decide +kernel)⟩
  · exact ⟨_, rfl, by decide, isWritten ⟨by decide, by decide⟩ (by decide +kernel)⟩

theorem convert_suppliedDocument_agree :
    ∃ converted otherConverted,
      convert {} {} (suppliedDocument "") = .ok converted ∧
      convert {} {} (suppliedDocument "d") = .ok otherConverted ∧
      (∀ instant ∈ converted.bom.metadata.timestamp, instant.nanosecond = 0) ∧
      (∀ instant ∈ otherConverted.bom.metadata.timestamp, instant.nanosecond = 0) ∧
      ∃ xml otherXml json otherJson,
        converted.bom.Written "1.5" "xml" xml ∧ otherConverted.bom.Written "1.5" "xml" otherXml ∧
        converted.bom.Written "1.5" "json" json ∧
        otherConverted.bom.Written "1.5" "json" otherJson ∧
        (xml = otherXml ↔ json = otherJson) := by
  have isXml : Encoding.parse "xml" = .ok .xml := by rfl
  have isJson : Encoding.parse "json" = .ok .json := by rfl
  obtain ⟨converted, succeeds, wholeSeconds, ⟨xml, xmlWritten⟩, json, jsonWritten⟩ :=
    suppliedDocument_written "" (.inl rfl)
  obtain ⟨otherConverted, otherSucceeds, otherWholeSeconds, ⟨otherXml, otherXmlWritten⟩, otherJson,
    otherJsonWritten⟩ := suppliedDocument_written "d" (.inr rfl)
  exact ⟨converted, otherConverted, succeeds, otherSucceeds, wholeSeconds, otherWholeSeconds, xml,
    otherXml, json, otherJson, xmlWritten, otherXmlWritten, jsonWritten, otherJsonWritten,
    convert_xml_eq_iff_json_eq succeeds otherSucceeds wholeSeconds otherWholeSeconds isXml isJson
      xmlWritten otherXmlWritten jsonWritten otherJsonWritten⟩

end Conversion

end Sbom
