import Sbom.Proofs.Scanning
import Sbom.Proofs.Traversal
import Sbom.CycloneDx.Downgrade
import Sbom.CycloneDx.XmlForm

/-!
# The shape of a document

The shape of a document is what is left of it when only this counts of a text: whether it is empty.
It keeps the lengths of all lists, and which optional values there are. Two documents of one shape
have the same tags in XML, with the same attributes; what differs are the values of these and the
texts between the tags.
-/

namespace Sbom

/-- The one text that stands for all texts that are not empty. -/
def textShape (text : String) : String :=
  if text.isEmpty then "" else "x"

@[simp] theorem isEmpty_textShape (text : String) : (textShape text).isEmpty = text.isEmpty := by
  unfold textShape
  split
  case isTrue isEmpty => rw [isEmpty]; rfl
  case isFalse notEmpty => rw [Bool.not_eq_true] at notEmpty; rw [notEmpty]; rfl

namespace Calendar

/-- The instant that stands for all instants. -/
def epoch : Instant where
  date := {
    year := 1970
    month := 1
    day := 1
    year_inRange := by decide
    month_inRange := by decide
    day_inRange := by decide }
  hour := 0
  minute := 0
  second := 0
  nanosecond := 0
  hour_lt := by decide
  minute_lt := by decide
  second_le := by decide
  nanosecond_lt := by decide

end Calendar

namespace CycloneDx

/-- The shape of a contact. -/
def Contact.shape (contact : Contact) : Contact where
  name := textShape contact.name
  email := textShape contact.email
  phone := textShape contact.phone

/-- The shape of an organization. -/
def Organization.shape (organization : Organization) : Organization where
  name := textShape organization.name
  urls := organization.urls.map textShape
  contacts := organization.contacts.map Contact.shape

/-- The shape of a digest: one algorithm stands for all. -/
def Hash.shape (hash : Hash) : Hash where
  algorithm := .md5
  content := textShape hash.content

/-- The shape of a licence. -/
def LicenseChoice.shape : LicenseChoice → LicenseChoice
  | .license id name => .license (id.map textShape) (name.map textShape)
  | .expression text => .expression (textShape text)

/-- The shape of a link. -/
def ExternalReference.shape (reference : ExternalReference) : ExternalReference where
  type := textShape reference.type
  url := textShape reference.url

/-- The shape of a component apart from the nested components. The type is always written; so it does
not count whether there is one. -/
def ComponentDetails.shape (details : ComponentDetails) : ComponentDetails where
  type := none
  ref := textShape details.ref
  supplier := details.supplier.map Organization.shape
  name := textShape details.name
  version := textShape details.version
  description := textShape details.description
  hashes := details.hashes.map Hash.shape
  licenses := details.licenses.map LicenseChoice.shape
  copyright := textShape details.copyright
  cpe := textShape details.cpe
  packageUrl := textShape details.packageUrl
  externalReferences := details.externalReferences.map ExternalReference.shape

/-- The shape of a stage of life. -/
def Lifecycle.shape : Lifecycle → Lifecycle
  | .phase value => .phase (.custom (textShape value.name))
  | .named name description => .named (textShape name) (textShape description)

/-- The shape of a tool. -/
def Tool.shape (tool : Tool) : Tool where
  vendor := textShape tool.vendor
  name := textShape tool.name
  version := textShape tool.version

/-- The shape of metadata. -/
def Metadata.shape (metadata : Metadata) : Metadata where
  timestamp := metadata.timestamp.map fun _ => Calendar.epoch
  lifecycles := metadata.lifecycles.map Lifecycle.shape
  tools := metadata.tools.map Tool.shape
  authors := metadata.authors.map Contact.shape
  component := metadata.component.map (Tree.map ComponentDetails.shape)

/-- The shape of a dependency record. -/
def Dependency.shape (record : Dependency) : Dependency where
  ref := textShape record.ref
  dependsOn := record.dependsOn.map textShape

/-- The shape of a document. -/
def Bom.shape (bom : Bom) : Bom where
  serialNumber := textShape bom.serialNumber
  version := 1
  metadata := bom.metadata.shape
  components := Tree.mapAll ComponentDetails.shape bom.components
  dependencies := bom.dependencies.map Dependency.shape

end CycloneDx

namespace Xml

mutual

/-- The tags of an element, without the values of their attributes. -/
def Element.marks : Element → List Mark
  | .empty name attributes => [⟨.single, name, attributes.map Prod.fst⟩]
  | .text name attributes _ => [⟨.opening, name, attributes.map Prod.fst⟩, ⟨.closing, name, []⟩]
  | .parent name attributes children =>
    ⟨.opening, name, attributes.map Prod.fst⟩ :: (marksAll children ++ [⟨.closing, name, []⟩])

/-- The tags of several elements, without the values of their attributes. -/
def marksAll : List Element → List Mark
  | [] => []
  | element :: rest => element.marks ++ marksAll rest

end

theorem marksAll_eq_flatMap (elements : List Element) :
    marksAll elements = elements.flatMap Element.marks := by
  induction elements with
  | nil => rfl
  | cons element rest inductionHypothesis =>
      rw [marksAll, inductionHypothesis, List.flatMap_cons]

mutual

/-- The tags among the tokens of an element are its tags. -/
theorem marks_tokens (depth : Nat) : (element : Element) →
    marks (element.tokens depth) = element.marks
  | .empty name attributes => by simp [Element.tokens, Element.marks, marks, Token.mark?]
  | .text name attributes content => by
    have noTag : (dataTokens (escape content)).filterMap Token.mark? = [] := by
      unfold dataTokens
      split <;> rfl
    simp [Element.tokens, Element.marks, marks, noTag, Token.mark?]
  | .parent name attributes children => by
    have inside := marks_childTokens (depth + 1) children
    rw [marks] at inside
    simp [Element.tokens, Element.marks, marks, inside, Token.mark?, List.filterMap_cons]

theorem marks_childTokens (depth : Nat) : (children : List Element) →
    marks (childTokens depth children) = marksAll children
  | [] => rfl
  | child :: rest => by
    have first := marks_tokens depth child
    have others := marks_childTokens depth rest
    rw [marks] at first others
    rw [childTokens, marksAll, marks, List.filterMap_cons_none rfl, List.filterMap_append, first,
      others]

end

end Xml

namespace CycloneDx

open Xml (Element marksAll marksAll_eq_flatMap)

@[simp] theorem marksAll_nil : marksAll [] = [] := rfl

@[simp] theorem marksAll_cons (element : Element) (rest : List Element) :
    marksAll (element :: rest) = element.marks ++ marksAll rest := rfl

@[simp] theorem marksAll_append (left right : List Element) :
    marksAll (left ++ right) = marksAll left ++ marksAll right := by
  simp [marksAll_eq_flatMap]

/-- An element for a text is left out, or has the same tags for all texts. -/
@[simp] theorem marksAll_textElement_textShape (name text : String) :
    marksAll (textElement name (textShape text)) = marksAll (textElement name text) := by
  unfold textElement
  rw [isEmpty_textShape]
  split <;> rfl

@[simp] theorem marksAll_map {α : Type} (element : α → Element) (parts : List α) :
    marksAll (parts.map element) = parts.flatMap fun part => (element part).marks := by
  simp [marksAll_eq_flatMap, List.flatMap_map]

@[simp] theorem marksAll_flatMap {α : Type} (elements : α → List Element) (parts : List α) :
    marksAll (parts.flatMap elements) = parts.flatMap fun part => marksAll (elements part) := by
  simp [marksAll_eq_flatMap, List.flatMap_assoc]

@[simp] theorem marksAll_toList_map {α : Type} (element : α → Element) (part : Option α) :
    marksAll (part.map element).toList = part.toList.flatMap fun part => (element part).marks := by
  cases part <;> simp

/-- The tags of a list of elements are those of the elements, within the tags of the list. -/
@[simp] theorem marksAll_listElement (name : String) (elements : List Element) :
    marksAll (listElement name elements) =
      if (marksAll elements).isEmpty then []
      else ⟨.opening, name, []⟩ :: (marksAll elements ++ [⟨.closing, name, []⟩]) := by
  have emptyIff : elements.isEmpty = (marksAll elements).isEmpty := by
    cases elements with
    | nil => rfl
    | cons element rest => cases element <;> rfl
  unfold listElement
  rw [emptyIff]
  split
  · rfl
  · simp [Element.marks]

@[simp] theorem marksAll_licensesElement (licenses : List LicenseChoice) :
    marksAll (licensesElement licenses) =
      if licenses.isEmpty then []
      else ⟨.opening, "licenses", []⟩ ::
        (licenses.flatMap (fun choice => marksAll choice.elements) ++
          [⟨.closing, "licenses", []⟩]) := by
  unfold licensesElement
  split <;> simp [Element.marks]

@[simp] theorem Contact.marks_shape (name : String) (contact : Contact) :
    (contact.shape.element name).marks = (contact.element name).marks := by
  simp [element, shape, Element.marks]

@[simp] theorem Organization.marks_shape (supplier : Organization) :
    supplier.shape.element.marks = supplier.element.marks := by
  simp [element, shape, Element.marks, List.flatMap_map]

@[simp] theorem Hash.marks_shape (hash : Hash) : hash.shape.element.marks = hash.element.marks :=
  rfl

@[simp] theorem LicenseChoice.marks_shape (choice : LicenseChoice) :
    marksAll choice.shape.elements = marksAll choice.elements := by
  cases choice with
  | license id name => cases id <;> cases name <;> simp [elements, shape, Element.marks]
  | expression text => simp [elements, shape]

@[simp] theorem ExternalReference.marks_shape (reference : ExternalReference) :
    reference.shape.element.marks = reference.element.marks := rfl

theorem ComponentDetails.attributes_shape (details : ComponentDetails) :
    details.shape.attributes.map Prod.fst = details.attributes.map Prod.fst := by
  simp only [attributes, shape, isEmpty_textShape]
  split <;> rfl

theorem ComponentDetails.marks_shape (details : ComponentDetails) :
    marksAll details.shape.elements = marksAll details.elements := by
  simp [elements, shape, Element.marks, List.flatMap_map]

mutual

/-- Components of one shape have the same tags. -/
theorem marks_componentElement_shape : (component : Component) →
    (componentElement (component.map ComponentDetails.shape)).marks =
      (componentElement component).marks
  | .node details children => by
    have inside := marks_componentElements_shape children
    rw [Tree.map, componentElement, componentElement, Element.marks, Element.marks, marksAll_append,
      marksAll_append, details.marks_shape, details.attributes_shape, marksAll_listElement,
      marksAll_listElement, inside]

theorem marks_componentElements_shape : (components : List Component) →
    marksAll (componentElements (Tree.mapAll ComponentDetails.shape components)) =
      marksAll (componentElements components)
  | [] => rfl
  | component :: rest => by
    rw [Tree.mapAll, componentElements, componentElements, marksAll_cons, marksAll_cons,
      marks_componentElement_shape component, marks_componentElements_shape rest]

end

@[simp] theorem Lifecycle.marks_shape (stage : Lifecycle) :
    marksAll stage.shape.elements = marksAll stage.elements := by
  cases stage <;> simp [elements, shape, LifecyclePhase.name, Element.marks]

@[simp] theorem Tool.marks_shape (tool : Tool) : tool.shape.element.marks = tool.element.marks := by
  simp [element, shape, Element.marks]

@[simp] theorem Metadata.marks_shape (metadata : Metadata) :
    metadata.shape.element.marks = metadata.element.marks := by
  simp [element, shape, Element.marks, marks_componentElement_shape]

@[simp] theorem Dependency.marks_shape (record : Dependency) :
    record.shape.element.marks = record.element.marks := by
  simp only [element, shape, List.isEmpty_map]
  split <;> simp [Element.marks]

/-- A document has the tags of its shape. -/
theorem Bom.marks_shape (bom : Bom) (version : SpecVersion) :
    (bom.shape.element version).marks = (bom.element version).marks := by
  simp only [element, shape, Element.marks, isEmpty_textShape, marksAll_cons, marksAll_append,
    Metadata.marks_shape, marksAll_listElement, marks_componentElements_shape, marksAll_map,
    List.flatMap_map, Dependency.marks_shape]
  split <;> rfl

/-- The shape of a component does not tell its type. -/
theorem ComponentDetails.shape_comp_withoutRecentType :
    ComponentDetails.shape ∘ ComponentDetails.withoutRecentType = ComponentDetails.shape := by
  funext details
  rw [Function.comp_apply, withoutRecentType]
  split <;> rfl

/-- Written for a version without stages of life, a document loses these and keeps the rest of its
shape. -/
theorem Bom.shape_downgrade (bom : Bom) (version : SpecVersion) :
    (bom.downgrade version).shape =
      if version.supportsLifecycles then bom.shape
      else { bom.shape with metadata := { bom.shape.metadata with lifecycles := [] } } := by
  unfold downgrade fits
  cases version.supportsLifecycles with
  | true => rfl
  | false =>
      cases recent : bom.hasRecentParts with
      | false =>
          have noStages : bom.metadata.lifecycles = [] := by
            rw [hasRecentParts, Bool.or_eq_false_iff] at recent
            simpa using recent.1
          simp [shape, Metadata.shape, noStages]
      | true =>
          have untyped :
              Tree.map ComponentDetails.shape ∘ Tree.map ComponentDetails.withoutRecentType =
                Tree.map ComponentDetails.shape := by
            funext component
            rw [Function.comp_apply, Tree.map_map, ComponentDetails.shape_comp_withoutRecentType]
          simp [shape, Metadata.shape, withoutRecentParts, untyped, Tree.mapAll_mapAll,
            ComponentDetails.shape_comp_withoutRecentType]

/-- Documents of one shape are written with the same tags. -/
theorem Bom.marks_downgrade_congr {bom other : Bom} (same : other.shape = bom.shape)
    (version : SpecVersion) :
    ((other.downgrade version).element version).marks =
      ((bom.downgrade version).element version).marks := by
  rw [← marks_shape (other.downgrade version), ← marks_shape (bom.downgrade version),
    shape_downgrade, shape_downgrade, same]

end CycloneDx

end Sbom
