import Sbom.Proofs.LineEnds
import Sbom.Proofs.Markup

/-!
# References that a reader reports

A reader of XML finds in a document the references of its components and of its dependency records, in
order. But it reports every tab and every line end in them as a space, since only markup characters
are written as references to characters. So what it reports is what the document has if no reference
has such a character; two references that differ in nothing else are reported as one.
-/

namespace Sbom

namespace Xml

variable (tag key : String)

/-- The value of an attribute in a tag, if the tag has the name and the attribute. -/
def ownValues (name : String) (attributes : List Attribute) : List String :=
  if name = tag then (attributes.lookup key).toList else []

mutual

/-- The values of an attribute in the tags of a name, in the order in which an element is written. -/
def Element.valuesOf : Element → List String
  | .empty name attributes => ownValues tag key name attributes
  | .text name attributes _ => ownValues tag key name attributes
  | .parent name attributes children => ownValues tag key name attributes ++ valuesOfAll children

/-- The values of an attribute in the tags of a name in several elements, in order. -/
def valuesOfAll : List Element → List String
  | [] => []
  | element :: rest => element.valuesOf ++ valuesOfAll rest

end

/-- What a reader finds in quotes for a value, line ends being unified. -/
def unifiedValue (value : String) : List Char :=
  unifyLines (escape value)

section Tokens

variable {name : String} {attributes : List Attribute} {form : TagForm} {tokens more : List Token}

@[simp] theorem rawValues_nil : rawValues tag key [] = [] := rfl

@[simp] theorem rawValues_append :
    rawValues tag key (tokens ++ more) = rawValues tag key tokens ++ rawValues tag key more :=
  List.filterMap_append

@[simp] theorem rawValues_data {text : List Char} :
    rawValues tag key (.data text :: tokens) = rawValues tag key tokens := rfl

@[simp] theorem rawValues_instruction {text : List Char} :
    rawValues tag key (.instruction text :: tokens) = rawValues tag key tokens := rfl

@[simp] theorem rawValues_bareTag :
    rawValues tag key (.tag form name [] :: tokens) = rawValues tag key tokens := by
  simp [rawValues]

@[simp] theorem rawValues_dataTokens (text : List Char) :
    rawValues tag key (dataTokens text) = [] := by
  unfold dataTokens
  split <;> rfl

theorem lookup_unified_rawAttributes :
    ((rawAttributes attributes).map unifyAttribute).lookup key =
      (attributes.lookup key).map unifiedValue := by
  induction attributes with
  | nil => rfl
  | cons pair rest inductionHypothesis =>
      obtain ⟨own, value⟩ := pair
      rw [rawAttributes] at inductionHypothesis ⊢
      rw [List.map_cons, List.map_cons, unifyAttribute, List.lookup_cons, List.lookup_cons,
        inductionHypothesis]
      cases key == own <;> rfl

/-- The first value of a sequence of tokens is that of the first tag. -/
@[simp] theorem rawValues_tag :
    rawValues tag key (.tag form name ((rawAttributes attributes).map unifyAttribute) :: tokens) =
      (ownValues tag key name attributes).map unifiedValue ++ rawValues tag key tokens := by
  rw [rawValues, List.filterMap_cons, ownValues]
  simp only [lookup_unified_rawAttributes]
  by_cases named : name = tag
  · cases attributes.lookup key <;> simp [named, rawValues]
  · simp [named, rawValues]

mutual

/-- The values that stand in the tokens of an element are those of the element, escaped. -/
theorem rawValues_tokens (depth : Nat) : (element : Element) →
    rawValues tag key ((element.tokens depth).map Token.unified) =
      (element.valuesOf tag key).map unifiedValue
  | .empty name attributes => by simp [Element.tokens, Element.valuesOf, Token.unified]
  | .text name attributes content => by
    simp [Element.tokens, Element.valuesOf, Token.unified, ← dataTokens_unifyLines]
  | .parent name attributes children => by
    simp [Element.tokens, Element.valuesOf, Token.unified,
      rawValues_childTokens (depth + 1) children]

theorem rawValues_childTokens (depth : Nat) : (children : List Element) →
    rawValues tag key ((childTokens depth children).map Token.unified) =
      (valuesOfAll tag key children).map unifiedValue
  | [] => rfl
  | child :: rest => by
    simp [childTokens, valuesOfAll, Token.unified, rawValues_tokens depth child,
      rawValues_childTokens depth rest]

end

end Tokens

/-- A reader reports the values of a document, with a space for every line end and every tab. -/
theorem reportedValues?_of_isDocument {root : Element} {text : List Char} {name : String}
    (isDocument : IsDocument text name (root.tokens 0)) :
    reportedValues? tag key text = some ((root.valuesOf tag key).map reportedText) := by
  have values : ∀ values : List String,
      (values.map unifiedValue).mapM attributeValue? = some (values.map reportedText) := by
    intro values
    induction values with
    | nil => rfl
    | cons value rest inductionHypothesis =>
        have first : attributeValue? (unifiedValue value) = some (reportedText value) :=
          attributeValue?_unifyLines_escape value
        rw [List.map_cons, List.mapM_cons, first, inductionHypothesis]
        rfl
  rw [reportedValues?, tokens?_unifyLines, isDocument.reads]
  simp [Token.unified, rawValues_tokens, values]

end Xml

namespace CycloneDx

open Xml (Element valuesOfAll ownValues reportedText reportedValues?)

section Elements

variable {tag key name : String}

@[simp] theorem valuesOfAll_nil : valuesOfAll tag key [] = [] := rfl

@[simp] theorem valuesOfAll_cons (element : Element) (rest : List Element) :
    valuesOfAll tag key (element :: rest) = element.valuesOf tag key ++ valuesOfAll tag key rest :=
  rfl

@[simp] theorem valuesOfAll_append (left right : List Element) :
    valuesOfAll tag key (left ++ right) = valuesOfAll tag key left ++ valuesOfAll tag key right := by
  induction left with
  | nil => rfl
  | cons element rest inductionHypothesis => simp [inductionHypothesis]

@[simp] theorem valuesOfAll_map {α : Type} (element : α → Element) (parts : List α) :
    valuesOfAll tag key (parts.map element) =
      parts.flatMap fun part => (element part).valuesOf tag key := by
  induction parts with
  | nil => rfl
  | cons part rest inductionHypothesis => simp [inductionHypothesis]

@[simp] theorem valuesOfAll_flatMap {α : Type} (elements : α → List Element) (parts : List α) :
    valuesOfAll tag key (parts.flatMap elements) =
      parts.flatMap fun part => valuesOfAll tag key (elements part) := by
  induction parts with
  | nil => rfl
  | cons part rest inductionHypothesis => simp [inductionHypothesis]

@[simp] theorem valuesOfAll_toList_map {α : Type} (element : α → Element) (part : Option α) :
    valuesOfAll tag key (part.map element).toList =
      part.toList.flatMap fun part => (element part).valuesOf tag key := by
  cases part <;> simp

/-- The tags of a list of elements have no attributes. -/
@[simp] theorem valuesOfAll_listElement (elements : List Element) :
    valuesOfAll tag key (listElement name elements) = valuesOfAll tag key elements := by
  cases elements <;> simp [listElement, Element.valuesOf, ownValues]

@[simp] theorem valuesOfAll_textElement (text : String) :
    valuesOfAll tag key (textElement name text) = [] := by
  unfold textElement
  split <;> simp [Element.valuesOf, ownValues]

end Elements

section Values

variable {tag key : String}

@[simp] theorem Contact.valuesOf_element (name : String) (contact : Contact) :
    (contact.element name).valuesOf tag key = [] := by
  simp [element, Element.valuesOf, ownValues]

@[simp] theorem Organization.valuesOf_element (supplier : Organization) :
    supplier.element.valuesOf tag key = [] := by
  simp [element, Element.valuesOf, ownValues]

@[simp] theorem LicenseChoice.valuesOfAll_elements (choice : LicenseChoice) :
    valuesOfAll tag key choice.elements = [] := by
  cases choice <;> simp [elements, Element.valuesOf, ownValues]

@[simp] theorem Lifecycle.valuesOfAll_elements (stage : Lifecycle) :
    valuesOfAll tag key stage.elements = [] := by
  cases stage <;> simp [elements, Element.valuesOf, ownValues]

@[simp] theorem Tool.valuesOf_element (tool : Tool) : tool.element.valuesOf tag key = [] := by
  simp [element, Element.valuesOf, ownValues]

/-- Nothing in a component has an attribute, apart from nested components, digests and links. -/
theorem ComponentDetails.valuesOfAll_elements (details : ComponentDetails) (notHash : tag ≠ "hash")
    (notReference : tag ≠ "reference") : valuesOfAll tag key details.elements = [] := by
  have licenses : valuesOfAll tag key (licensesElement details.licenses) = [] := by
    unfold licensesElement
    split <;> simp [Element.valuesOf, ownValues]
  simp [elements, licenses, Element.valuesOf, ownValues, Hash.element, ExternalReference.element,
    notHash.symm, notReference.symm]

mutual

/-- The references in the tags of a component are those of it and the components nested in it. -/
theorem valuesOf_componentElement : (component : Component) →
    (componentElement component).valuesOf "component" "bom-ref" =
      (component.values.map ComponentDetails.ref).filter fun ref => ref ≠ ""
  | .node details children => by
    have own : ownValues "component" "bom-ref" "component" details.attributes =
        [details.ref].filter fun ref => ref ≠ "" := by
      by_cases unset : details.ref = "" <;>
        simp [ownValues, ComponentDetails.attributes, unset, List.lookup_cons]
    rw [componentElement, Element.valuesOf, own, valuesOfAll_append,
      details.valuesOfAll_elements (by decide) (by decide), valuesOfAll_listElement,
      valuesOfAll_componentElements children, Tree.values_node, List.map_cons, List.nil_append,
      ← List.filter_append, List.singleton_append]

theorem valuesOfAll_componentElements : (components : List Component) →
    valuesOfAll "component" "bom-ref" (componentElements components) =
      ((Tree.valuesAll components).map ComponentDetails.ref).filter fun ref => ref ≠ ""
  | [] => rfl
  | component :: rest => by
    rw [componentElements, valuesOfAll_cons, valuesOf_componentElement component,
      valuesOfAll_componentElements rest, Tree.valuesAll_cons, List.map_append, List.filter_append]

end

mutual

/-- Components have no tags of dependency records. -/
theorem valuesOf_componentElement_dependency : (component : Component) →
    (componentElement component).valuesOf "dependency" key = []
  | .node details children => by
    have inside : valuesOfAll "dependency" key details.elements = [] :=
      details.valuesOfAll_elements (by decide) (by decide)
    simp [componentElement, Element.valuesOf, ownValues, inside,
      valuesOfAll_componentElements_dependency children]

theorem valuesOfAll_componentElements_dependency : (components : List Component) →
    valuesOfAll "dependency" key (componentElements components) = []
  | [] => rfl
  | component :: rest => by
    rw [componentElements, valuesOfAll_cons, valuesOf_componentElement_dependency component,
      valuesOfAll_componentElements_dependency rest, List.append_nil]

end

/-- In metadata only the root component has attributes. -/
theorem Metadata.valuesOf_element (metadata : Metadata) :
    metadata.element.valuesOf tag key =
      metadata.component.toList.flatMap fun root => (componentElement root).valuesOf tag key := by
  have quiet : ∀ {α : Type} (parts : List α), parts.flatMap (fun _ => ([] : List String)) = [] := by
    simp
  simp [element, Element.valuesOf, ownValues, quiet]

/-- The references in the tags of a dependency record. -/
theorem Dependency.valuesOf_element (record : Dependency) :
    record.element.valuesOf "dependency" "ref" = record.ref :: record.dependsOn := by
  unfold element
  split
  case isTrue isEmpty => simp [Element.valuesOf, ownValues, List.isEmpty_iff.mp isEmpty]
  case isFalse => simp [Element.valuesOf, ownValues]

theorem Dependency.valuesOf_element_component (record : Dependency) :
    record.element.valuesOf "component" key = [] := by
  unfold element
  split <;> simp [Element.valuesOf, ownValues]

end Values

/-- The references that the dependency records of a document hold, in order. -/
def Bom.recordRefs (bom : Bom) : List String :=
  bom.dependencies.flatMap fun record => record.ref :: record.dependsOn

namespace Bom

/-- The references of components in the tags of a document. -/
theorem valuesOf_component (bom : Bom) (version : SpecVersion) :
    (bom.element version).valuesOf "component" "bom-ref" =
      bom.refs.filter fun ref => ref ≠ "" := by
  cases root : bom.metadata.component <;>
    simp [element, Element.valuesOf, ownValues, Metadata.valuesOf_element, root,
      valuesOf_componentElement, valuesOfAll_componentElements, refs, trees,
      Dependency.valuesOf_element_component]

/-- The references of dependency records in the tags of a document. -/
theorem valuesOf_dependency (bom : Bom) (version : SpecVersion) :
    (bom.element version).valuesOf "dependency" "ref" = bom.recordRefs := by
  simp [element, Element.valuesOf, ownValues, Metadata.valuesOf_element,
    valuesOf_componentElement_dependency, valuesOfAll_componentElements_dependency, recordRefs,
    Dependency.valuesOf_element]

/-- What a document loses for an older version is no reference. -/
theorem refs_downgrade (bom : Bom) (version : SpecVersion) :
    (bom.downgrade version).refs = bom.refs := by
  have sameRef : ComponentDetails.ref ∘ ComponentDetails.withoutRecentType =
      ComponentDetails.ref := by
    funext details
    rw [Function.comp_apply, ComponentDetails.withoutRecentType]
    split <;> rfl
  unfold downgrade
  split
  · rfl
  · rw [refs, refs, trees_withoutRecentParts, Tree.valuesAll_mapAll, List.map_map, sameRef]

theorem recordRefs_downgrade (bom : Bom) (version : SpecVersion) :
    (bom.downgrade version).recordRefs = bom.recordRefs := by
  unfold downgrade
  split <;> rfl

end Bom

variable {bom : Bom} {version encoding : String} {text : List Char}

/-- Whether a text has a tab or a line end. -/
def HasBreak (text : String) : Prop :=
  '\t' ∈ text.toList ∨ '\n' ∈ text.toList ∨ '\r' ∈ text.toList

instance (text : String) : Decidable (HasBreak text) :=
  inferInstanceAs (Decidable (_ ∨ _ ∨ _))

theorem map_reportedText_eq_self_iff {texts : List String} :
    texts.map reportedText = texts ↔ ∀ text ∈ texts, ¬ HasBreak text := by
  simp only [HasBreak, not_or, ← Xml.reportedText_eq_self_iff]
  induction texts with
  | nil => simp
  | cons text rest inductionHypothesis =>
      rw [List.map_cons, List.cons.injEq, inductionHypothesis, List.forall_mem_cons]

/-- From XML output a reader reports the references of the components and of the dependency records
in order, with spaces for tabs and line ends. -/
theorem Bom.Written.reportedValues? (isXml : Encoding.parse encoding = .ok .xml)
    (written : bom.Written version encoding text) :
    Xml.reportedValues? "component" "bom-ref" text =
        some ((bom.refs.filter fun ref => ref ≠ "").map reportedText) ∧
      Xml.reportedValues? "dependency" "ref" text = some (bom.recordRefs.map reportedText) := by
  obtain ⟨target, -, isDocument⟩ := written.isDocument isXml
  have components := Xml.reportedValues?_of_isDocument "component" "bom-ref" isDocument
  have records := Xml.reportedValues?_of_isDocument "dependency" "ref" isDocument
  rw [Bom.valuesOf_component, Bom.refs_downgrade] at components
  rw [Bom.valuesOf_dependency, Bom.recordRefs_downgrade] at records
  exact ⟨components, records⟩

/-- A reader of XML output reports the references of the components and of the dependency records.
Those of components are distinct exactly if no two different ones are reported alike, and those of
dependency records are reported as the document has them exactly if none has a tab or a line end; so
are those of components. -/
theorem written_reportedRefs (isXml : Encoding.parse encoding = .ok .xml)
    (written : bom.Written version encoding text) :
    ∃ refs recordRefs,
      reportedValues? "component" "bom-ref" text = some refs ∧
      reportedValues? "dependency" "ref" text = some recordRefs ∧
      refs = (bom.refs.filter fun ref => ref ≠ "").map reportedText ∧
      recordRefs = bom.recordRefs.map reportedText ∧
      (refs.Nodup ↔ ∀ ref ∈ bom.refs, ref ≠ "" → ∀ other ∈ bom.refs, other ≠ "" →
        reportedText ref = reportedText other → ref = other) ∧
      (refs = (bom.refs.filter fun ref => ref ≠ "") ↔ ∀ ref ∈ bom.refs, ¬ HasBreak ref) ∧
      (recordRefs = bom.recordRefs ↔ ∀ ref ∈ bom.recordRefs, ¬ HasBreak ref) := by
  obtain ⟨components, records⟩ := written.reportedValues? isXml
  obtain ⟨_, _, _, _, valid, _⟩ := Bom.written_iff.mp written
  have distinct := (Bom.defect?_eq_none_iff.mp valid).1.distinct
  refine ⟨_, _, components, records, rfl, rfl, ?_, ?_, map_reportedText_eq_self_iff⟩
  · rw [List.nodup_map_iff_inj_on distinct]
    simp only [List.mem_filter, decide_eq_true_eq, and_imp]
  · rw [map_reportedText_eq_self_iff]
    constructor
    · intro apart ref member
      by_cases unset : ref = ""
      · rw [unset]; decide
      · exact apart ref (List.mem_filter.mpr ⟨member, by simpa using unset⟩)
    · exact fun apart ref member => apart ref (List.mem_of_mem_filter member)

/-- A document with references that differ in a tab and a space. -/
def tabbedBom : Bom where
  components := [.leaf { ref := "a\tb", name := "x" }, .leaf { ref := "a b", name := "y" }]
  dependencies := [{ ref := "a\tb", dependsOn := ["a b"] }]

theorem tabbedBom_written : ∃ text, tabbedBom.Written "1.5" "xml" text := by
  have known : SpecVersion.parse "1.5" = .ok .v1_5 := by rfl
  have isXml : Encoding.parse "xml" = .ok .xml := by rfl
  exact Bom.exists_written known isXml ⟨by decide, by decide⟩ (by decide)

theorem written_tabbedBom :
    ∃ text, tabbedBom.Written "1.5" "xml" text ∧
      reportedValues? "component" "bom-ref" text = some ["a b", "a b"] ∧
      reportedValues? "dependency" "ref" text = some ["a b", "a b"] := by
  obtain ⟨text, written⟩ := tabbedBom_written
  have isXml : Encoding.parse "xml" = .ok .xml := by rfl
  obtain ⟨_, _, components, records, rfl, rfl, _⟩ := written_reportedRefs isXml written
  have spaced : reportedText "a\tb" = "a b" := by decide
  exact ⟨text, written, components.trans (by decide), records.trans (by decide)⟩

/-- Neither are the reported references of components always distinct, nor are those of dependency
records always reported as the document has them. -/
theorem not_forall_reportedRefs :
    (¬ ∀ (bom : Bom) (version encoding : String) (text : List Char),
        Encoding.parse encoding = .ok .xml → bom.Written version encoding text →
        ∃ refs, reportedValues? "component" "bom-ref" text = some refs ∧ refs.Nodup) ∧
      ¬ ∀ (bom : Bom) (version encoding : String) (text : List Char),
        Encoding.parse encoding = .ok .xml → bom.Written version encoding text →
        reportedValues? "dependency" "ref" text = some bom.recordRefs := by
  obtain ⟨text, written⟩ := tabbedBom_written
  have isXml : Encoding.parse "xml" = .ok .xml := by rfl
  obtain ⟨components, records⟩ := written.reportedValues? isXml
  constructor
  · intro always
    obtain ⟨refs, reported, distinct⟩ := always tabbedBom "1.5" "xml" text isXml written
    cases components.symm.trans reported
    exact absurd distinct (by decide)
  · intro always
    have same := records.symm.trans (always tabbedBom "1.5" "xml" text isXml written)
    exact absurd same (by decide)

end CycloneDx

end Sbom
