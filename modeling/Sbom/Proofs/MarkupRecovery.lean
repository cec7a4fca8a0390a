import Sbom.CycloneDx.XmlForm
import Sbom.Proofs.ValueRecovery

/-!
# What the XML form tells

The XML form leaves out an address that is empty, an identifier or name of a licence that is empty, an
expression that is empty, and the fraction of a second. A document is recoverable if these do not
matter for it. The root element of a recoverable document determines what is written of it, and so
does the text.
-/

namespace Sbom.CycloneDx

open Xml (Element)

section Recoverable

/-- Whether a licence is one of those that XML tells from each other: one identifier that is not
empty, one name, or an expression that is not empty. -/
def LicenseChoice.IsRecoverable : LicenseChoice → Prop
  | .license (some id) none => id ≠ ""
  | .license none (some _) => True
  | .license (some _) (some _) => False
  | .license none none => False
  | .expression text => text ≠ ""

/-- Whether no web address of an organization is empty. -/
def Organization.IsRecoverable (organization : Organization) : Prop :=
  ∀ url ∈ organization.urls, url ≠ ""

/-- Whether XML tells the supplier and the licences of a component from all others. -/
structure ComponentDetails.IsRecoverable (details : ComponentDetails) : Prop where
  supplier : ∀ supplier ∈ details.supplier, supplier.IsRecoverable
  licenses : ∀ choice ∈ details.licenses, choice.IsRecoverable

/-- Whether XML tells a document from all others that are not written the same. -/
structure Bom.IsRecoverable (bom : Bom) : Prop where
  wholeSeconds : ∀ instant ∈ bom.metadata.timestamp, instant.nanosecond = 0
  components : ∀ details ∈ Tree.valuesAll bom.trees, details.IsRecoverable

end Recoverable

section Elements

/-- The name of an element. -/
def elementName : Element → String
  | .empty name _ => name
  | .text name _ _ => name
  | .parent name _ _ => name

variable {name : String}

theorem isPart_element {element : Element} (named : elementName element = name) :
    IsPart elementName name [element] := by
  simp [IsPart, named]

@[simp] theorem isPart_textElement (text : String) :
    IsPart elementName name (textElement name text) := by
  unfold textElement
  split <;> simp [IsPart, elementName]

@[simp] theorem isPart_listElement (items : List Element) :
    IsPart elementName name (listElement name items) := by
  unfold listElement
  split <;> simp [IsPart, elementName]

theorem isPart_map {α : Type} (element : α → Element)
    (named : ∀ part, elementName (element part) = name) (parts : List α) :
    IsPart elementName name (parts.map element) := by
  simp [IsPart, named]

theorem isPart_toList_map {α : Type} (element : α → Element)
    (named : ∀ part, elementName (element part) = name) (part? : Option α) :
    IsPart elementName name (part?.map element).toList := by
  cases part? <;> simp [IsPart, named]

@[simp] theorem textElement_inj {text other : String} :
    textElement name text = textElement name other ↔ text = other := by
  refine ⟨fun same => ?_, fun same => same ▸ rfl⟩
  unfold textElement at same
  split at same <;> split at same <;> simp_all

@[simp] theorem listElement_inj {items others : List Element} :
    listElement name items = listElement name others ↔ items = others := by
  cases items <;> cases others <;> simp [listElement]

theorem toList_inj {left right : Option Element} : left.toList = right.toList ↔ left = right := by
  cases left <;> cases right <;> simp

/-- Elements for texts that are not empty are not left out. -/
theorem flatMap_textElement {texts : List String} (notEmpty : ∀ text ∈ texts, text ≠ "") :
    texts.flatMap (textElement name) = texts.map (Element.text name []) := by
  induction texts with
  | nil => rfl
  | cons text rest inductionHypothesis =>
      obtain ⟨first, others⟩ := List.forall_mem_cons.mp notEmpty
      have written : textElement name text = [.text name [] text] := by simp [textElement, first]
      rw [List.flatMap_cons, List.map_cons, written, inductionHypothesis others,
        List.singleton_append]

end Elements

section Parts

theorem Contact.element_injective (name : String) : Function.Injective (Contact.element name) := by
  intro left right same
  have labelled : ∀ contact : Contact,
      List.Forall₂ (IsPart elementName) ["name", "email", "phone"]
        [textElement "name" contact.name, textElement "email" contact.email,
          textElement "phone" contact.phone] := by
    simp
  have parts := parts_eq_of_flatten_eq (by decide) (labelled left) (labelled right)
    (by simpa [element] using same)
  cases left
  cases right
  simpa using parts

theorem Organization.element_inj {left right : Organization} (recoverable : left.IsRecoverable)
    (otherRecoverable : right.IsRecoverable) (same : left.element = right.element) :
    left = right := by
  have labelled : ∀ organization : Organization,
      List.Forall₂ (IsPart elementName) ["name", "url", "contact"]
        [textElement "name" organization.name, organization.urls.map (.text "url" []),
          organization.contacts.map (Contact.element "contact")] := by
    intro organization
    exact .cons (isPart_textElement _) (.cons (isPart_map (.text "url" []) (fun _ => rfl) _)
      (.cons (isPart_map (Contact.element "contact") (fun _ => rfl) _) .nil))
  have parts := parts_eq_of_flatten_eq (by decide) (labelled left) (labelled right) (by
    simpa [element, flatMap_textElement recoverable, flatMap_textElement otherRecoverable]
      using same)
  have urls : Function.Injective (Element.text "url" []) := fun _ _ same => by simpa using same
  cases left
  cases right
  simpa [(List.map_injective_iff.mpr urls).eq_iff,
    (List.map_injective_iff.mpr (Contact.element_injective "contact")).eq_iff] using parts

theorem Hash.element_injective : Function.Injective Hash.element := by
  rintro ⟨algorithm, content⟩ ⟨other, otherContent⟩ same
  simpa [element, HashAlgorithm.name_injective.eq_iff] using same

theorem ExternalReference.element_injective : Function.Injective ExternalReference.element := by
  rintro ⟨type, url⟩ ⟨otherType, otherUrl⟩ same
  simpa [element] using same

/-- The one element of a recoverable licence. -/
def LicenseChoice.onlyElement : LicenseChoice → Element
  | .license id name =>
    .parent "license" [] (textElement "id" (id.getD "") ++ textElement "name" (name.getD ""))
  | .expression text => .text "expression" [] text

theorem LicenseChoice.elements_eq {choice : LicenseChoice} (recoverable : choice.IsRecoverable) :
    choice.elements = [choice.onlyElement] := by
  cases choice with
  | license id name => rfl
  | expression text => simp [elements, textElement, onlyElement, show text ≠ "" from recoverable]

theorem LicenseChoice.onlyElement_inj {left right : LicenseChoice}
    (recoverable : left.IsRecoverable) (otherRecoverable : right.IsRecoverable)
    (same : left.onlyElement = right.onlyElement) : left = right := by
  cases left with
  | expression text => cases right <;> simp_all [onlyElement]
  | license id name =>
      cases right with
      | expression text => simp [onlyElement] at same
      | license otherId otherName =>
          have labelled : ∀ id name : Option String,
              List.Forall₂ (IsPart elementName) ["id", "name"]
                [textElement "id" (id.getD ""), textElement "name" (name.getD "")] := by
            simp
          have parts := parts_eq_of_flatten_eq (by decide) (labelled id name)
            (labelled otherId otherName) (by simpa [onlyElement] using same)
          simp only [List.cons.injEq, textElement_inj, and_true] at parts
          cases id <;> cases name <;> cases otherId <;> cases otherName <;>
            simp_all [IsRecoverable]

theorem licensesElement_inj {licenses others : List LicenseChoice}
    (recoverable : ∀ choice ∈ licenses, choice.IsRecoverable)
    (otherRecoverable : ∀ choice ∈ others, choice.IsRecoverable)
    (same : licensesElement licenses = licensesElement others) : licenses = others := by
  have single : ∀ choices : List LicenseChoice, (∀ choice ∈ choices, choice.IsRecoverable) →
      licensesElement choices = listElement "licenses" (choices.map LicenseChoice.onlyElement) := by
    intro choices recoverable
    have written : choices.flatMap LicenseChoice.elements =
        choices.map LicenseChoice.onlyElement := by
      rw [List.map_eq_flatMap]
      exact List.flatMap_congr fun choice member =>
        LicenseChoice.elements_eq (recoverable choice member)
    rw [licensesElement, listElement, written, List.isEmpty_map]
  rw [single _ recoverable, single _ otherRecoverable, listElement_inj] at same
  have determined : ∀ choice ∈ licenses, ∀ other ∈ others,
      choice.onlyElement = other.onlyElement → choice = other := fun choice member other isOther =>
    LicenseChoice.onlyElement_inj (recoverable choice member) (otherRecoverable other isOther)
  simpa using map_eq_map_of_determined (g := id) determined same

/-- An attribute that is left out for an empty text tells the text. -/
theorem optionalAttribute_inj {key text other : String}
    (same : (if text.isEmpty then [] else [(key, text)] : List Xml.Attribute) =
      if other.isEmpty then [] else [(key, other)]) : text = other := by
  split at same <;> split at same <;> simp_all

/-- The attributes of a component determine the written type and the reference. -/
theorem ComponentDetails.attributes_inj {left right : ComponentDetails}
    (same : left.attributes = right.attributes) :
    left.writtenType = right.writtenType ∧ left.ref = right.ref := by
  unfold attributes at same
  rw [List.cons.injEq, Prod.mk.injEq, ComponentType.name_injective.eq_iff] at same
  exact ⟨same.1.2, optionalAttribute_inj same.2⟩

/-- The elements of a component apart from those nested in it. -/
def ComponentDetails.elementParts (details : ComponentDetails) : List (List Element) := [
  (details.supplier.map Organization.element).toList, [.text "name" [] details.name],
  textElement "version" details.version, textElement "description" details.description,
  listElement "hashes" (details.hashes.map Hash.element), licensesElement details.licenses,
  textElement "copyright" details.copyright, textElement "cpe" details.cpe,
  textElement "purl" details.packageUrl,
  listElement "externalReferences" (details.externalReferences.map ExternalReference.element)]

/-- The attributes of a component and its elements with those nested in it determine what is written
of both. -/
theorem ComponentDetails.eq_of_element_eq {left right : ComponentDetails}
    (recoverable : left.IsRecoverable) (otherRecoverable : right.IsRecoverable)
    {items others : List Element} (sameAttributes : left.attributes = right.attributes)
    (same : left.elements ++ listElement "components" items =
      right.elements ++ listElement "components" others) :
    left.plain = right.plain ∧ items = others := by
  have labelled : ∀ (details : ComponentDetails) (items : List Element),
      List.Forall₂ (IsPart elementName)
        ["supplier", "name", "version", "description", "hashes", "licenses", "copyright", "cpe",
          "purl", "externalReferences", "components"]
        (details.elementParts ++ [listElement "components" items]) := by
    intro details items
    have supplier : IsPart elementName "supplier"
        (details.supplier.map Organization.element).toList :=
      isPart_toList_map Organization.element (fun _ => rfl) _
    have licenses : IsPart elementName "licenses" (licensesElement details.licenses) := by
      unfold licensesElement
      split <;> simp [IsPart, elementName]
    have name : IsPart elementName "name" [.text "name" [] details.name] := isPart_element rfl
    simp [elementParts, supplier, licenses, name]
  have parts := parts_eq_of_flatten_eq (by decide) (labelled left items) (labelled right others)
    (by simpa [elementParts, elements] using same)
  simp only [elementParts, List.cons_append, List.nil_append, List.cons.injEq, toList_inj,
    textElement_inj, listElement_inj, Element.text.injEq, true_and, and_true,
    (List.map_injective_iff.mpr Hash.element_injective).eq_iff,
    (List.map_injective_iff.mpr ExternalReference.element_injective).eq_iff] at parts
  obtain ⟨supplier, name, version, description, hashes, licenses, copyright, cpe, packageUrl,
    references, sameItems⟩ := parts
  have determined : ∀ supplier ∈ left.supplier, ∀ other ∈ right.supplier,
      supplier.element = other.element → supplier = other := fun one member other isOther =>
    Organization.element_inj (recoverable.supplier one member)
      (otherRecoverable.supplier other isOther)
  have sameSupplier : left.supplier = right.supplier := by
    simpa using option_map_eq_map_of_determined (g := id) determined supplier
  have sameLicenses := licensesElement_inj recoverable.licenses otherRecoverable.licenses licenses
  have attributes := attributes_inj sameAttributes
  refine ⟨?_, sameItems⟩
  rw [plain, plain, attributes.1]
  cases left
  cases right
  simp_all

mutual

/-- The element of a component determines what is written of it. -/
theorem plain_eq_of_componentElement_eq : (left right : Component) →
    (∀ details ∈ left.values, details.IsRecoverable) →
    (∀ details ∈ right.values, details.IsRecoverable) →
    componentElement left = componentElement right →
    left.map ComponentDetails.plain = right.map ComponentDetails.plain
  | .node details children, .node others otherChildren, recoverable, otherRecoverable, same => by
    rw [Tree.values_node, List.forall_mem_cons] at recoverable otherRecoverable
    rw [componentElement, componentElement, Element.parent.injEq] at same
    obtain ⟨sameDetails, sameChildren⟩ :=
      ComponentDetails.eq_of_element_eq recoverable.1 otherRecoverable.1 same.2.1 same.2.2
    rw [Tree.map, Tree.map, sameDetails, plain_eq_of_componentElements_eq children otherChildren
      recoverable.2 otherRecoverable.2 sameChildren]

theorem plain_eq_of_componentElements_eq : (left right : List Component) →
    (∀ details ∈ Tree.valuesAll left, details.IsRecoverable) →
    (∀ details ∈ Tree.valuesAll right, details.IsRecoverable) →
    componentElements left = componentElements right →
    Tree.mapAll ComponentDetails.plain left = Tree.mapAll ComponentDetails.plain right
  | [], [], _, _, _ => rfl
  | component :: rest, other :: others, recoverable, otherRecoverable, same => by
    rw [Tree.valuesAll_cons, List.forall_mem_append] at recoverable otherRecoverable
    rw [componentElements, componentElements, List.cons.injEq] at same
    rw [Tree.mapAll, Tree.mapAll,
      plain_eq_of_componentElement_eq component other recoverable.1 otherRecoverable.1 same.1,
      plain_eq_of_componentElements_eq rest others recoverable.2 otherRecoverable.2 same.2]

end

/-- A stage with a phase has no element for a name. -/
theorem textElement_phase_ne {phase name : String} {rest : List Element} :
    textElement "phase" phase ≠ Element.text "name" [] name :: rest := by
  unfold textElement
  split <;> simp

/-- The elements inside of a stage of life determine what is written of it. -/
theorem Lifecycle.plain_eq_of_elements_eq {left right : Lifecycle}
    (same : left.elements = right.elements) : left.plain = right.plain := by
  cases left with
  | phase value =>
      cases right with
      | phase other =>
          rw [elements, elements, textElement_inj] at same
          rw [plain, plain, same]
      | named name description => exact absurd same textElement_phase_ne
  | named name description =>
      cases right with
      | phase other => exact absurd same.symm textElement_phase_ne
      | named otherName otherDescription => simpa [elements, plain] using same

theorem Tool.element_injective : Function.Injective Tool.element := by
  intro left right same
  have labelled : ∀ tool : Tool, List.Forall₂ (IsPart elementName) ["vendor", "name", "version"]
      [textElement "vendor" tool.vendor, textElement "name" tool.name,
        textElement "version" tool.version] := by
    simp
  have parts := parts_eq_of_flatten_eq (by decide) (labelled left) (labelled right)
    (by simpa [element] using same)
  cases left
  cases right
  simpa using parts

/-- The elements of metadata. -/
def Metadata.elementParts (metadata : Metadata) : List (List Element) := [
  (metadata.timestamp.map fun instant => Element.text "timestamp" [] instant.secondsText).toList,
  listElement "lifecycles" (metadata.lifecycles.map fun stage =>
    .parent "lifecycle" [] stage.elements),
  listElement "tools" (metadata.tools.map Tool.element),
  listElement "authors" (metadata.authors.map (Contact.element "author")),
  (metadata.component.map componentElement).toList]

/-- Cut to whole seconds, the text of an instant without a fraction is the whole text. -/
theorem secondsText_eq_text {instant : Calendar.Instant} (whole : instant.nanosecond = 0) :
    instant.secondsText = instant.text := by
  rw [Calendar.Instant.text, whole]
  rfl

/-- The element of metadata determines what is written of them. -/
theorem Metadata.plain_eq_of_element_eq {left right : Metadata}
    (whole : ∀ instant ∈ left.timestamp, instant.nanosecond = 0)
    (otherWhole : ∀ instant ∈ right.timestamp, instant.nanosecond = 0)
    (recoverable : ∀ details ∈ Tree.valuesAll left.component.toList, details.IsRecoverable)
    (otherRecoverable : ∀ details ∈ Tree.valuesAll right.component.toList, details.IsRecoverable)
    (same : left.element = right.element) : left.plain = right.plain := by
  have labelled : ∀ metadata : Metadata, List.Forall₂ (IsPart elementName)
      ["timestamp", "lifecycles", "tools", "authors", "component"] metadata.elementParts := by
    intro metadata
    have timestamp : IsPart elementName "timestamp" (metadata.timestamp.map fun instant =>
        Element.text "timestamp" [] instant.secondsText).toList :=
      isPart_toList_map (fun instant : Calendar.Instant =>
        .text "timestamp" [] instant.secondsText) (fun _ => rfl) _
    have component : IsPart elementName "component"
        (metadata.component.map componentElement).toList :=
      isPart_toList_map componentElement (fun component => by cases component; rfl) _
    simp [elementParts, timestamp, component]
  have parts := parts_eq_of_flatten_eq (by decide) (labelled left) (labelled right)
    (by simpa [elementParts, element] using same)
  simp only [elementParts, List.cons.injEq, toList_inj, listElement_inj,
    (List.map_injective_iff.mpr Tool.element_injective).eq_iff,
    (List.map_injective_iff.mpr (Contact.element_injective "author")).eq_iff] at parts
  obtain ⟨times, stages, tools, authors, roots, -⟩ := parts
  have sameTime : ∀ instant ∈ left.timestamp, ∀ other ∈ right.timestamp,
      Element.text "timestamp" [] instant.secondsText =
        Element.text "timestamp" [] other.secondsText → instant = other := by
    intro instant member other isOther same
    rw [Element.text.injEq, secondsText_eq_text (whole instant member),
      secondsText_eq_text (otherWhole other isOther)] at same
    exact Calendar.Instant.text_inj.mp same.2.2
  have timestamp : left.timestamp = right.timestamp := by
    simpa using option_map_eq_map_of_determined (g := id) sameTime times
  have lifecycles : left.lifecycles.map Lifecycle.plain = right.lifecycles.map Lifecycle.plain :=
    map_eq_map_of_determined (fun _ _ _ _ same => Lifecycle.plain_eq_of_elements_eq
      (Element.parent.inj same).2.2) stages
  have sameRoot : ∀ root ∈ left.component, ∀ other ∈ right.component,
      componentElement root = componentElement other →
        root.map ComponentDetails.plain = other.map ComponentDetails.plain := by
    intro root isRoot other isOther
    rw [Option.mem_def] at isRoot isOther
    rw [isRoot] at recoverable
    rw [isOther] at otherRecoverable
    exact plain_eq_of_componentElement_eq root other (by simpa using recoverable)
      (by simpa using otherRecoverable)
  have component : left.component.map (Tree.map ComponentDetails.plain) =
      right.component.map (Tree.map ComponentDetails.plain) :=
    option_map_eq_map_of_determined sameRoot roots
  cases left
  cases right
  simp_all [plain]

theorem Dependency.element_injective : Function.Injective Dependency.element := by
  rintro ⟨ref, dependsOn⟩ ⟨otherRef, otherDependsOn⟩ same
  have empty : Function.Injective fun target => Element.empty "dependency" [("ref", target)] :=
    fun target other same => by simpa using same
  cases dependsOn <;> cases otherDependsOn <;>
    simp_all [element, (List.map_injective_iff.mpr empty).eq_iff]

/-- The root element of a recoverable document determines what is written of it. -/
theorem Bom.plain_eq_of_element_eq {left right : Bom} {version : SpecVersion}
    (recoverable : left.IsRecoverable) (otherRecoverable : right.IsRecoverable)
    (same : left.element version = right.element version) : left.plain = right.plain := by
  have components := recoverable.components
  have otherComponents := otherRecoverable.components
  rw [trees, Tree.valuesAll_append, List.forall_mem_append] at components otherComponents
  have labelled : ∀ bom : Bom, List.Forall₂ (IsPart elementName)
      ["metadata", "components", "dependencies"]
      [[bom.metadata.element], listElement "components" (componentElements bom.components),
        listElement "dependencies" (bom.dependencies.map Dependency.element)] := by
    intro bom
    have metadata : IsPart elementName "metadata" [bom.metadata.element] := isPart_element rfl
    simp [metadata]
  rw [element, element, Element.parent.injEq, List.cons.injEq] at same
  obtain ⟨-, ⟨-, attributes⟩, children⟩ := same
  obtain ⟨serial, versions⟩ := List.append_inj' attributes rfl
  have serialNumber := optionalAttribute_inj serial
  have number : left.version = right.version := by
    simpa [Text.decimalText_inj] using versions
  have parts := parts_eq_of_flatten_eq (by decide) (labelled left) (labelled right)
    (by simpa using children)
  simp only [List.cons.injEq, listElement_inj, and_true,
    (List.map_injective_iff.mpr Dependency.element_injective).eq_iff] at parts
  obtain ⟨metadata, trees, dependencies⟩ := parts
  have sameMetadata := Metadata.plain_eq_of_element_eq recoverable.wholeSeconds
    otherRecoverable.wholeSeconds components.1 otherComponents.1 metadata
  have sameTrees := plain_eq_of_componentElements_eq _ _ components.2 otherComponents.2 trees
  cases left
  cases right
  simp_all [plain]

end Parts

section PlainForms

theorem ComponentDetails.elements_plain (details : ComponentDetails) :
    details.plain.elements = details.elements ∧ details.plain.attributes = details.attributes :=
  ⟨rfl, rfl⟩

mutual

theorem componentElement_plain : (component : Component) →
    componentElement (component.map ComponentDetails.plain) = componentElement component
  | .node details children => by
    rw [Tree.map, componentElement, componentElement, details.elements_plain.1,
      details.elements_plain.2, componentElements_plain children]

theorem componentElements_plain : (components : List Component) →
    componentElements (Tree.mapAll ComponentDetails.plain components) = componentElements components
  | [] => rfl
  | component :: rest => by
    rw [Tree.mapAll, componentElements, componentElements, componentElement_plain component,
      componentElements_plain rest]

end

theorem Lifecycle.elements_plain (stage : Lifecycle) : stage.plain.elements = stage.elements := by
  cases stage <;> rfl

theorem Metadata.element_plain (metadata : Metadata) :
    metadata.plain.element = metadata.element := by
  simp [element, plain, Function.comp_def, Lifecycle.elements_plain, componentElement_plain]

/-- A document has the root element of its plain form. -/
theorem Bom.element_plain (bom : Bom) (version : SpecVersion) :
    bom.plain.element version = bom.element version := by
  simp [element, plain, Metadata.element_plain, componentElements_plain]

/-- Two recoverable documents have the same root element exactly if the same is written of them. -/
theorem Bom.element_eq_iff {left right : Bom} {version : SpecVersion}
    (recoverable : left.IsRecoverable) (otherRecoverable : right.IsRecoverable) :
    left.element version = right.element version ↔ left.plain = right.plain := by
  refine ⟨plain_eq_of_element_eq recoverable otherRecoverable, fun same => ?_⟩
  rw [← left.element_plain, same, right.element_plain]

end PlainForms

end Sbom.CycloneDx
