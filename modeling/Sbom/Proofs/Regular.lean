import Sbom.CycloneDx.XmlForm
import Sbom.Proofs.ElementRecovery

/-!
# Names of elements

No name of the schema is used both for elements that hold text and for elements that hold others. So
the text of a document determines its root element.
-/

namespace Sbom.CycloneDx

open Xml (Element)

/-- The names of the elements that hold text. -/
def textNames : List String := [
  "timestamp", "phase", "name", "description", "vendor", "version", "email", "phone", "url", "hash",
  "id", "expression", "copyright", "cpe", "purl"]

variable {name : String}

theorem isRegular_text {attributes : List Xml.Attribute} {content : String} :
    (Element.text name attributes content).IsRegular textNames ↔ name ∈ textNames :=
  ⟨fun (.text listed) => listed, .text⟩

theorem isRegular_parent {attributes : List Xml.Attribute} {children : List Element} :
    (Element.parent name attributes children).IsRegular textNames ↔
      name ∉ textNames ∧ ∀ child ∈ children, child.IsRegular textNames :=
  ⟨fun (.parent unlisted inside) => ⟨unlisted, inside⟩, fun both => .parent both.1 both.2⟩

theorem forall_mem_textElement {text : String} {holds : Element → Prop} :
    (∀ element ∈ textElement name text, holds element) ↔
      text ≠ "" → holds (.text name [] text) := by
  by_cases isEmpty : text = "" <;> simp [textElement, isEmpty]

theorem forall_mem_listElement {items : List Element} {holds : Element → Prop} :
    (∀ element ∈ listElement name items, holds element) ↔
      items ≠ [] → holds (.parent name [] items) := by
  cases items <;> simp [listElement]

theorem Contact.isRegular (unlisted : name ∉ textNames) (contact : Contact) :
    (contact.element name).IsRegular textNames := by
  simp only [element, isRegular_parent, List.forall_mem_append, forall_mem_textElement,
    isRegular_text]
  exact ⟨unlisted, by simp [textNames]⟩

theorem Organization.isRegular (supplier : Organization) :
    supplier.element.IsRegular textNames := by
  simp only [element, isRegular_parent, List.forall_mem_append, List.forall_mem_flatMap,
    List.forall_mem_map, forall_mem_textElement, isRegular_text]
  exact ⟨by decide, by simp [textNames], fun contact _ => contact.isRegular (by decide)⟩

theorem LicenseChoice.forall_mem_elements_isRegular (choice : LicenseChoice) :
    ∀ element ∈ choice.elements, element.IsRegular textNames := by
  cases choice with
  | license id name =>
      simp only [elements, List.forall_mem_singleton, isRegular_parent, List.forall_mem_append,
        forall_mem_textElement, isRegular_text]
      exact ⟨by decide, by simp [textNames]⟩
  | expression text =>
      simp only [elements, forall_mem_textElement, isRegular_text]
      simp [textNames]

theorem ExternalReference.isRegular (reference : ExternalReference) :
    reference.element.IsRegular textNames :=
  .parent (by decide) (List.forall_mem_singleton.mpr (.text (by decide)))

/-- The elements of a component are regular if those nested in it are. -/
theorem ComponentDetails.isRegular (details : ComponentDetails)
    {children : List Element} (inside : ∀ child ∈ children, child.IsRegular textNames) :
    (Element.parent "component" details.attributes
      (details.elements ++ listElement "components" children)).IsRegular textNames := by
  have licenses : ∀ element ∈ licensesElement details.licenses, element.IsRegular textNames := by
    unfold licensesElement
    split
    · simp
    · simp only [List.forall_mem_singleton, isRegular_parent, List.forall_mem_flatMap]
      exact ⟨by decide, fun choice _ => choice.forall_mem_elements_isRegular⟩
  have supplier : ∀ element ∈ (details.supplier.map Organization.element).toList,
      element.IsRegular textNames := by
    cases details.supplier with
    | none => simp
    | some supplier => simpa using supplier.isRegular
  simp only [elements, isRegular_parent, List.forall_mem_append, List.forall_mem_cons,
    List.forall_mem_map, forall_mem_textElement, forall_mem_listElement, isRegular_text, and_assoc]
  have hashes : ∀ hash ∈ details.hashes, hash.element.IsRegular textNames :=
    fun hash _ => .text (by decide)
  exact ⟨by decide, supplier, by decide, fun _ => by decide, fun _ => by decide,
    fun _ => ⟨by decide, hashes⟩, licenses, fun _ => by decide, fun _ => by decide,
    fun _ => by decide, fun _ => ⟨by decide, fun reference _ => reference.isRegular⟩,
    fun _ => ⟨by decide, inside⟩⟩

mutual

theorem isRegular_componentElement : (component : Component) →
    (componentElement component).IsRegular textNames
  | .node details children => by
    rw [componentElement]
    exact details.isRegular (isRegular_componentElements children)

theorem isRegular_componentElements : (components : List Component) →
    ∀ element ∈ componentElements components, element.IsRegular textNames
  | [] => fun _ member => absurd member List.not_mem_nil
  | component :: rest =>
    List.forall_mem_cons.mpr
      ⟨isRegular_componentElement component, isRegular_componentElements rest⟩

end

theorem Lifecycle.isRegular (stage : Lifecycle) :
    (Element.parent "lifecycle" [] stage.elements).IsRegular textNames := by
  cases stage with
  | phase value =>
      simp only [elements, isRegular_parent, forall_mem_textElement, isRegular_text]
      exact ⟨by decide, fun _ => by decide⟩
  | named name description =>
      simp only [elements, isRegular_parent, List.forall_mem_cons, forall_mem_textElement,
        isRegular_text]
      exact ⟨by decide, by decide, fun _ => by decide⟩

theorem Tool.isRegular (tool : Tool) : tool.element.IsRegular textNames := by
  simp only [element, isRegular_parent, List.forall_mem_append, forall_mem_textElement,
    isRegular_text]
  exact ⟨by decide, ⟨fun _ => by decide, fun _ => by decide⟩, fun _ => by decide⟩

theorem Metadata.isRegular (metadata : Metadata) : metadata.element.IsRegular textNames := by
  have timestamp : ∀ element ∈ (metadata.timestamp.map fun instant =>
      Element.text "timestamp" [] instant.secondsText).toList, element.IsRegular textNames := by
    cases metadata.timestamp with
    | none => simp
    | some instant => exact List.forall_mem_singleton.mpr (.text (by decide))
  have component : ∀ element ∈ (metadata.component.map componentElement).toList,
      element.IsRegular textNames := by
    cases metadata.component with
    | none => simp
    | some root => exact List.forall_mem_singleton.mpr (isRegular_componentElement root)
  have stages : ∀ stage ∈ metadata.lifecycles,
      "lifecycle" ∉ textNames ∧ ∀ element ∈ stage.elements, element.IsRegular textNames :=
    fun stage _ => isRegular_parent.mp stage.isRegular
  have authors : ∀ author ∈ metadata.authors, (author.element "author").IsRegular textNames :=
    fun author _ => author.isRegular (by decide)
  simp only [element, isRegular_parent, List.forall_mem_append, List.forall_mem_map,
    forall_mem_listElement, and_assoc]
  exact ⟨by decide, timestamp, fun _ => ⟨by decide, stages⟩,
    fun _ => ⟨by decide, fun tool _ => tool.isRegular⟩, fun _ => ⟨by decide, authors⟩, component⟩

theorem Dependency.isRegular (record : Dependency) : record.element.IsRegular textNames := by
  unfold element
  split
  · exact .empty
  · simp only [isRegular_parent, List.forall_mem_map]
    exact ⟨by decide, fun _ _ => .empty⟩

theorem Bom.isRegular (bom : Bom) (version : SpecVersion) :
    (bom.element version).IsRegular textNames := by
  simp only [element, isRegular_parent, List.forall_mem_cons, List.forall_mem_append,
    List.forall_mem_map, forall_mem_listElement]
  exact ⟨by decide, bom.metadata.isRegular,
    fun _ => ⟨by decide, isRegular_componentElements bom.components⟩,
    fun _ => ⟨by decide, fun record _ => record.isRegular⟩⟩

end Sbom.CycloneDx
