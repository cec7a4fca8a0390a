import Sbom.Proofs.Traversal
import Sbom.Proofs.Validity

/-!
# The texts of a document

`Bom.texts` lists every text that a document holds, part by part and without regard to how it is
written. The value form adds to them the names of types and algorithms and the time of the metadata,
and leaves out empty ones. So what holds of the empty text and of what is added holds of all strings
of the value form exactly if it holds of all texts of the document.
-/

namespace Sbom.CycloneDx

/-- The texts of a contact. -/
def Contact.texts (contact : Contact) : List String :=
  [contact.name, contact.email, contact.phone]

/-- The texts of an organization. -/
def Organization.texts (organization : Organization) : List String :=
  organization.name :: (organization.urls ++ organization.contacts.flatMap Contact.texts)

/-- The texts of a licence. -/
def LicenseChoice.texts : LicenseChoice → List String
  | .license id name => id.toList ++ name.toList
  | .expression text => [text]

/-- The texts of a link. -/
def ExternalReference.texts (reference : ExternalReference) : List String :=
  [reference.type, reference.url]

/-- The texts of a component apart from the nested components. -/
def ComponentDetails.texts (details : ComponentDetails) : List String :=
  details.ref :: details.supplier.toList.flatMap Organization.texts ++
    [details.name, details.version, details.description] ++
    details.hashes.map Hash.content ++ details.licenses.flatMap LicenseChoice.texts ++
    [details.copyright, details.cpe, details.packageUrl] ++
    details.externalReferences.flatMap ExternalReference.texts

/-- The texts of a stage of life. -/
def Lifecycle.texts : Lifecycle → List String
  | .phase value => [value.name]
  | .named name description => [name, description]

/-- The texts of a tool. -/
def Tool.texts (tool : Tool) : List String :=
  [tool.vendor, tool.name, tool.version]

/-- The texts of metadata apart from the root component. -/
def Metadata.texts (metadata : Metadata) : List String :=
  metadata.lifecycles.flatMap Lifecycle.texts ++ metadata.tools.flatMap Tool.texts ++
    metadata.authors.flatMap Contact.texts

/-- The texts of a dependency record. -/
def Dependency.texts (record : Dependency) : List String :=
  record.ref :: record.dependsOn

/-- Every text a document holds. -/
def Bom.texts (bom : Bom) : List String :=
  bom.serialNumber :: bom.metadata.texts ++
    (Tree.valuesAll bom.trees).flatMap ComponentDetails.texts ++
    bom.dependencies.flatMap Dependency.texts

/-- Whether every string of a value is a legal one. -/
def EveryString (legal : String → Prop) (value : Json) : Prop :=
  ∀ text ∈ stringsOf value, legal text

/-- Whether every string of the values of several members is a legal one. -/
def EveryMemberString (legal : String → Prop) (members : List (String × Json)) : Prop :=
  ∀ text ∈ stringsOfMembers members, legal text

/-- Whether a property holds of the empty text and of the words that the value form of a document
adds to its texts. -/
structure AdmitsWords (legal : String → Prop) : Prop where
  empty : legal ""
  type : ∀ type : ComponentType, legal type.name
  algorithm : ∀ algorithm : HashAlgorithm, legal algorithm.name
  instant : ∀ instant : Calendar.Instant, legal instant.text

section EveryString

variable {legal : String → Prop}

@[simp] theorem everyString_string {text : String} :
    EveryString legal (.string text) ↔ legal text := by
  simp [EveryString, stringsOf]

@[simp] theorem everyString_nat {value : Nat} : EveryString legal (.nat value) ↔ True := by
  simp [EveryString, Json.nat, stringsOf]

@[simp] theorem everyString_object {members : List (String × Json)} :
    EveryString legal (.object members) ↔ EveryMemberString legal members := by
  rw [EveryString, stringsOf, EveryMemberString]

@[simp] theorem everyString_array {items : List Json} :
    EveryString legal (.array items) ↔ ∀ item ∈ items, EveryString legal item := by
  rw [EveryString, stringsOf]
  induction items with
  | nil => simp [stringsOfAll]
  | cons item rest inductionHypothesis =>
      rw [stringsOfAll, List.forall_mem_append, inductionHypothesis, List.forall_mem_cons]
      rfl

@[simp] theorem everyString_strings {texts : List String} :
    EveryString legal (.strings texts) ↔ ∀ text ∈ texts, legal text := by
  simp [Json.strings]

@[simp] theorem everyMemberString_nil : EveryMemberString legal [] ↔ True := by
  simp [EveryMemberString, stringsOfMembers]

@[simp] theorem everyMemberString_cons {name : String} {value : Json}
    {rest : List (String × Json)} :
    EveryMemberString legal ((name, value) :: rest) ↔
      EveryString legal value ∧ EveryMemberString legal rest := by
  rw [EveryMemberString, stringsOfMembers, List.forall_mem_append]
  rfl

@[simp] theorem everyMemberString_append {left right : List (String × Json)} :
    EveryMemberString legal (left ++ right) ↔
      EveryMemberString legal left ∧ EveryMemberString legal right := by
  simp only [EveryMemberString, stringsOfMembers_eq_flatMap, List.flatMap_append,
    List.forall_mem_append]

@[simp] theorem everyMemberString_listMember {name : String} {items : List Json} :
    EveryMemberString legal (listMember name items) ↔ ∀ item ∈ items, EveryString legal item := by
  unfold listMember
  cases items <;> simp

@[simp] theorem everyMemberString_optionMember {name : String} {value? : Option Json} :
    EveryMemberString legal (optionMember name value?) ↔
      ∀ value, value? = some value → EveryString legal value := by
  unfold optionMember
  cases value? <;> simp

theorem LicenseChoice.everyString_toJson {choice : LicenseChoice} :
    EveryString legal choice.toJson ↔ ∀ text ∈ choice.texts, legal text := by
  cases choice with
  | license id name => cases id <;> cases name <;> simp [toJson, texts]
  | expression text => simp [toJson, texts]

theorem ExternalReference.everyString_toJson {reference : ExternalReference} :
    EveryString legal reference.toJson ↔ ∀ text ∈ reference.texts, legal text := by
  simp [toJson, texts]

theorem Dependency.everyString_toJson {record : Dependency} :
    EveryString legal record.toJson ↔ ∀ text ∈ record.texts, legal text := by
  simp [toJson, texts]

section Words

variable (admits : AdmitsWords legal)
include admits

/-- A member that is left out when it is empty has a legal text exactly if the text is one. -/
theorem everyMemberString_textMember {name text : String} :
    EveryMemberString legal (textMember name text) ↔ legal text := by
  unfold textMember
  split
  case isTrue isEmpty =>
    rw [String.isEmpty_iff.mp isEmpty]
    simpa using admits.empty
  case isFalse => simp

theorem Contact.everyString_toJson {contact : Contact} :
    EveryString legal contact.toJson ↔ ∀ text ∈ contact.texts, legal text := by
  simp [toJson, texts, everyMemberString_textMember admits]

theorem Organization.everyString_toJson {organization : Organization} :
    EveryString legal organization.toJson ↔ ∀ text ∈ organization.texts, legal text := by
  simp only [toJson, texts, everyString_object, everyMemberString_cons, everyString_string,
    everyMemberString_append, everyMemberString_listMember, List.forall_mem_map,
    Contact.everyString_toJson admits, List.forall_mem_cons, List.forall_mem_append,
    List.forall_mem_flatMap]

theorem Hash.everyString_toJson {hash : Hash} :
    EveryString legal hash.toJson ↔ legal hash.content := by
  simp [toJson, admits.algorithm]

theorem ComponentDetails.everyMemberString_members {details : ComponentDetails} :
    EveryMemberString legal details.members ↔ ∀ text ∈ details.texts, legal text := by
  have supplier : (∀ value, details.supplier.map Organization.toJson = some value →
      EveryString legal value) ↔
        ∀ text ∈ details.supplier.toList.flatMap Organization.texts, legal text := by
    cases details.supplier <;> simp [Organization.everyString_toJson admits]
  simp only [members, texts, everyMemberString_cons, everyString_string,
    everyMemberString_append, everyMemberString_textMember admits, everyMemberString_optionMember,
    supplier, everyMemberString_listMember, List.forall_mem_map, Hash.everyString_toJson admits,
    LicenseChoice.everyString_toJson, ExternalReference.everyString_toJson,
    List.forall_mem_cons, List.forall_mem_append, List.forall_mem_flatMap, admits.type]
  grind

theorem Lifecycle.everyString_toJson {stage : Lifecycle} :
    EveryString legal stage.toJson ↔ ∀ text ∈ stage.texts, legal text := by
  cases stage <;> simp [toJson, texts, everyMemberString_textMember admits]

theorem Tool.everyString_toJson {tool : Tool} :
    EveryString legal tool.toJson ↔ ∀ text ∈ tool.texts, legal text := by
  simp [toJson, texts, everyMemberString_textMember admits]

end Words

mutual

/-- The strings of the value form of a component are the texts of it and the components nested in
it. -/
theorem everyString_componentValue (admits : AdmitsWords legal) : (component : Component) →
    (EveryString legal (componentValue component) ↔
      ∀ details ∈ component.values, ∀ text ∈ details.texts, legal text)
  | .node details children => by
    rw [componentValue, everyString_object, everyMemberString_append,
      ComponentDetails.everyMemberString_members admits, everyMemberString_listMember,
      everyString_componentValues admits children, Tree.values_node, List.forall_mem_cons]

theorem everyString_componentValues (admits : AdmitsWords legal) :
    (components : List Component) →
    ((∀ value ∈ componentValues components, EveryString legal value) ↔
      ∀ details ∈ Tree.valuesAll components, ∀ text ∈ details.texts, legal text)
  | [] => by simp [componentValues]
  | component :: rest => by
    rw [componentValues, List.forall_mem_cons, everyString_componentValue admits component,
      everyString_componentValues admits rest, Tree.valuesAll_cons, List.forall_mem_append]

end

theorem Metadata.everyString_toJson (admits : AdmitsWords legal) {metadata : Metadata} :
    EveryString legal metadata.toJson ↔ (∀ text ∈ metadata.texts, legal text) ∧
      ∀ details ∈ Tree.valuesAll metadata.component.toList, ∀ text ∈ details.texts, legal text := by
  have timestamp : ∀ value,
      (metadata.timestamp.map fun instant => Json.string instant.text) = some value →
        EveryString legal value := by
    intro value isTime
    obtain ⟨instant, _, rfl⟩ := Option.map_eq_some_iff.mp isTime
    simpa using admits.instant instant
  have root : (∀ value, metadata.component.map componentValue = some value →
      EveryString legal value) ↔
        ∀ details ∈ Tree.valuesAll metadata.component.toList,
          ∀ text ∈ details.texts, legal text := by
    cases metadata.component <;> simp [everyString_componentValue admits]
  simp only [toJson, texts, everyString_object, everyMemberString_append,
    everyMemberString_optionMember, everyMemberString_listMember, List.forall_mem_map, root,
    Lifecycle.everyString_toJson admits, Tool.everyString_toJson admits,
    Contact.everyString_toJson admits, List.forall_mem_append, List.forall_mem_flatMap,
    iff_true_intro timestamp, true_and]

/-- All strings of the value form of a document are legal exactly if all texts it holds are. -/
theorem Bom.everyString_toJson (admits : AdmitsWords legal) {bom : Bom} :
    EveryString legal bom.toJson ↔ ∀ text ∈ bom.texts, legal text := by
  simp only [toJson, members, texts, trees, everyString_object, everyMemberString_append,
    everyMemberString_cons, everyMemberString_nil, everyMemberString_textMember admits,
    everyString_nat, Metadata.everyString_toJson admits, everyString_array,
    everyString_componentValues admits, List.forall_mem_map, Dependency.everyString_toJson,
    Tree.valuesAll_append, List.forall_mem_cons, List.forall_mem_append, List.forall_mem_flatMap]
  tauto

end EveryString

/-- Without the recent parts a document has the same trees of components, some without their
types. -/
theorem Bom.trees_withoutRecentParts (bom : Bom) :
    bom.withoutRecentParts.trees = Tree.mapAll ComponentDetails.withoutRecentType bom.trees := by
  rw [trees, trees, Tree.mapAll_eq_map, List.map_append, ← Tree.mapAll_eq_map _ bom.components]
  cases root : bom.metadata.component <;> simp [withoutRecentParts, root]

/-- A document written for an old version has no texts that it did not have. -/
theorem Bom.mem_texts_of_mem_downgrade {bom : Bom} {version : SpecVersion} :
    ∀ text ∈ (bom.downgrade version).texts, text ∈ bom.texts := by
  have sameTexts : ∀ details : ComponentDetails,
      details.withoutRecentType.texts = details.texts := by
    intro details
    unfold ComponentDetails.withoutRecentType
    split <;> rfl
  unfold downgrade
  split
  · exact fun _ member => member
  · intro text
    simp only [texts, trees_withoutRecentParts, Tree.valuesAll_mapAll, List.flatMap_map, sameTexts]
    simp only [withoutRecentParts, Metadata.texts, List.flatMap_nil, List.nil_append,
      List.mem_cons, List.mem_append]
    tauto

end Sbom.CycloneDx
