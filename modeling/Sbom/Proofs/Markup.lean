import Sbom.Proofs.Shape
import Sbom.Proofs.Written

/-!
# XML output

Every element of a document has a name and attributes that are fixed, and its values and contents are
texts of the document or words and numbers in ASCII. So what is written as XML is a well-formed
document, and no text of a document can add a tag to it.
-/

namespace Sbom.CycloneDx

open Xml (Element IsTag IsXmlString isName)

/-- Whether all elements of a list can be written. -/
def AllWritable (elements : List Element) : Prop :=
  ∀ element ∈ elements, element.IsWritable

@[simp] theorem allWritable_nil : AllWritable [] ↔ True := by
  simp [AllWritable]

@[simp] theorem allWritable_cons {element : Element} {rest : List Element} :
    AllWritable (element :: rest) ↔ element.IsWritable ∧ AllWritable rest :=
  List.forall_mem_cons

@[simp] theorem allWritable_append {left right : List Element} :
    AllWritable (left ++ right) ↔ AllWritable left ∧ AllWritable right :=
  List.forall_mem_append

@[simp] theorem allWritable_map {α : Type} {element : α → Element} {parts : List α} :
    AllWritable (parts.map element) ↔ ∀ part ∈ parts, (element part).IsWritable :=
  List.forall_mem_map

@[simp] theorem allWritable_flatMap {α : Type} {elements : α → List Element} {parts : List α} :
    AllWritable (parts.flatMap elements) ↔ ∀ part ∈ parts, AllWritable (elements part) :=
  List.forall_mem_flatMap

@[simp] theorem allWritable_toList_map {α : Type} {element : α → Element} {part : Option α} :
    AllWritable (part.map element).toList ↔ ∀ value ∈ part.toList, (element value).IsWritable := by
  cases part <;> simp

section Elements

variable {name text : String}

theorem isTag_bare (named : isName name.toList = true) : IsTag name [] where
  name := named
  keys := by simp
  distinct := .nil
  values := by simp

/-- An attribute that a tag does not have may be added to it. -/
theorem isTag_cons {key value : String} {others : List Xml.Attribute}
    (keyNamed : isName key.toList = true) (fresh : key ∉ others.map Prod.fst)
    (legal : IsXmlString value) (tag : IsTag name others) :
    IsTag name ((key, value) :: others) where
  name := tag.name
  keys := List.forall_mem_cons.mpr ⟨keyNamed, tag.keys⟩
  distinct := List.nodup_cons.mpr ⟨fresh, tag.distinct⟩
  values := List.forall_mem_cons.mpr ⟨legal, tag.values⟩

theorem allWritable_textElement (named : isName name.toList = true) (legal : IsXmlString text) :
    AllWritable (textElement name text) := by
  unfold textElement
  split
  · simp
  · simpa using Element.IsWritable.text (isTag_bare named) legal

theorem isWritable_parent {children : List Element} (named : isName name.toList = true)
    (inside : AllWritable children) : (Element.parent name [] children).IsWritable :=
  .parent (isTag_bare named) inside

theorem allWritable_listElement {items : List Element} (named : isName name.toList = true)
    (inside : AllWritable items) : AllWritable (listElement name items) := by
  unfold listElement
  split
  · simp
  · simpa using isWritable_parent named inside

theorem allWritable_listElement_map {α : Type} {element : α → Element} {parts : List α}
    (named : isName name.toList = true) (inside : ∀ part ∈ parts, (element part).IsWritable) :
    AllWritable (listElement name (parts.map element)) :=
  allWritable_listElement named (allWritable_map.mpr inside)

end Elements

theorem Contact.isWritable {name : String} {contact : Contact} (named : isName name.toList = true)
    (legal : ∀ text ∈ contact.texts, IsXmlString text) : (contact.element name).IsWritable := by
  simp only [texts, List.forall_mem_cons] at legal
  obtain ⟨legalName, legalEmail, legalPhone, -⟩ := legal
  refine isWritable_parent named ?_
  simp only [allWritable_append]
  exact ⟨⟨allWritable_textElement rfl legalName, allWritable_textElement rfl legalEmail⟩,
    allWritable_textElement rfl legalPhone⟩

theorem Organization.isWritable {supplier : Organization}
    (legal : ∀ text ∈ supplier.texts, IsXmlString text) : supplier.element.IsWritable := by
  simp only [texts, List.forall_mem_cons, List.forall_mem_append, List.forall_mem_flatMap] at legal
  obtain ⟨legalName, legalUrls, legalContacts⟩ := legal
  refine isWritable_parent rfl ?_
  simp only [allWritable_append, allWritable_flatMap, allWritable_map]
  exact ⟨⟨allWritable_textElement rfl legalName,
    fun url member => allWritable_textElement rfl (legalUrls url member)⟩,
    fun contact member => Contact.isWritable rfl (legalContacts contact member)⟩

theorem Hash.isWritable {hash : Hash} (legal : IsXmlString hash.content) :
    hash.element.IsWritable :=
  .text (isTag_cons rfl (by simp) (admitsWords_isXmlString.algorithm hash.algorithm)
    (isTag_bare rfl)) legal

theorem LicenseChoice.allWritable {choice : LicenseChoice}
    (legal : ∀ text ∈ choice.texts, IsXmlString text) : AllWritable choice.elements := by
  have unset : IsXmlString "" := admitsWords_isXmlString.empty
  cases choice with
  | license id name =>
      have legalId : IsXmlString (id.getD "") := by
        cases id with
        | none => exact unset
        | some text => exact legal text (by simp [texts])
      have legalName : IsXmlString (name.getD "") := by
        cases name with
        | none => exact unset
        | some text => exact legal text (by simp [texts])
      rw [elements, allWritable_cons]
      refine ⟨isWritable_parent rfl ?_, by simp⟩
      rw [allWritable_append]
      exact ⟨allWritable_textElement rfl legalId, allWritable_textElement rfl legalName⟩
  | expression text => exact allWritable_textElement rfl (legal text (by simp [texts]))

theorem ExternalReference.isWritable {reference : ExternalReference}
    (legal : ∀ text ∈ reference.texts, IsXmlString text) : reference.element.IsWritable := by
  simp only [texts, List.forall_mem_cons] at legal
  obtain ⟨legalType, legalUrl, -⟩ := legal
  refine .parent (isTag_cons rfl (by simp) legalType (isTag_bare rfl)) ?_
  exact List.forall_mem_singleton.mpr (.text (isTag_bare rfl) legalUrl)

section Components

variable {details : ComponentDetails} (legal : ∀ text ∈ details.texts, IsXmlString text)
include legal

theorem ComponentDetails.isTag : IsTag "component" details.attributes := by
  have typed := admitsWords_isXmlString.type details.writtenType
  have legalRef : IsXmlString details.ref := legal _ (by simp [texts])
  unfold attributes
  split
  · exact isTag_cons rfl (by simp) typed (isTag_bare rfl)
  · exact isTag_cons rfl (by simp) typed
      (isTag_cons rfl (by simp) legalRef (isTag_bare rfl))

theorem ComponentDetails.allWritable : AllWritable details.elements := by
  simp only [texts, List.forall_mem_cons, List.forall_mem_append, List.forall_mem_map,
    List.forall_mem_flatMap] at legal
  obtain ⟨⟨⟨⟨⟨⟨-, legalSupplier⟩, legalName, legalVersion, legalDescription, -⟩, legalHashes⟩,
    legalLicenses⟩, legalCopyright, legalCpe, legalPackageUrl, -⟩, legalReferences⟩ := legal
  have supplier : AllWritable (details.supplier.map Organization.element).toList :=
    allWritable_toList_map.mpr fun supplier member =>
      Organization.isWritable (legalSupplier supplier member)
  have name : (Element.text "name" [] details.name).IsWritable :=
    .text (isTag_bare rfl) legalName
  have hashes : AllWritable (listElement "hashes" (details.hashes.map Hash.element)) :=
    allWritable_listElement_map rfl fun hash member => Hash.isWritable (legalHashes hash member)
  have licenses : AllWritable (licensesElement details.licenses) := by
    unfold licensesElement
    split
    · simp
    · refine List.forall_mem_singleton.mpr (isWritable_parent rfl ?_)
      exact allWritable_flatMap.mpr fun choice member =>
        LicenseChoice.allWritable (legalLicenses choice member)
  have references : AllWritable (listElement "externalReferences"
      (details.externalReferences.map ExternalReference.element)) :=
    allWritable_listElement_map rfl fun reference member =>
      ExternalReference.isWritable (legalReferences reference member)
  simp only [elements, allWritable_append, allWritable_cons]
  exact ⟨supplier, name, ⟨⟨⟨⟨⟨⟨allWritable_textElement rfl legalVersion,
    allWritable_textElement rfl legalDescription⟩, hashes⟩, licenses⟩,
    allWritable_textElement rfl legalCopyright⟩,
    allWritable_textElement rfl legalCpe⟩,
    allWritable_textElement rfl legalPackageUrl⟩, references⟩

end Components

mutual

/-- A component can be written if XML can carry the texts of it and the components nested in it. -/
theorem isWritable_componentElement : (component : Component) →
    (∀ details ∈ component.values, ∀ text ∈ details.texts, IsXmlString text) →
    (componentElement component).IsWritable
  | .node details children, legal => by
    rw [Tree.values_node, List.forall_mem_cons] at legal
    refine .parent (ComponentDetails.isTag legal.1) (allWritable_append.mpr ⟨?_, ?_⟩)
    · exact ComponentDetails.allWritable legal.1
    · exact allWritable_listElement rfl (allWritable_componentElements children legal.2)

theorem allWritable_componentElements : (components : List Component) →
    (∀ details ∈ Tree.valuesAll components, ∀ text ∈ details.texts, IsXmlString text) →
    AllWritable (componentElements components)
  | [], _ => allWritable_nil.mpr trivial
  | component :: rest, legal => by
    rw [Tree.valuesAll_cons, List.forall_mem_append] at legal
    exact allWritable_cons.mpr ⟨isWritable_componentElement component legal.1,
      allWritable_componentElements rest legal.2⟩

end

theorem Lifecycle.allWritable {stage : Lifecycle} (legal : ∀ text ∈ stage.texts, IsXmlString text) :
    AllWritable stage.elements := by
  cases stage with
  | phase value => exact allWritable_textElement rfl (legal _ (by simp [texts]))
  | named name description =>
      refine allWritable_cons.mpr ⟨.text (isTag_bare rfl) (legal _ (by simp [texts])), ?_⟩
      exact allWritable_textElement rfl (legal _ (by simp [texts]))

theorem Tool.isWritable {tool : Tool} (legal : ∀ text ∈ tool.texts, IsXmlString text) :
    tool.element.IsWritable := by
  simp only [texts, List.forall_mem_cons] at legal
  obtain ⟨legalVendor, legalName, legalVersion, -⟩ := legal
  refine isWritable_parent rfl ?_
  simp only [allWritable_append]
  exact ⟨⟨allWritable_textElement rfl legalVendor, allWritable_textElement rfl legalName⟩,
    allWritable_textElement rfl legalVersion⟩

/-- The time of a document is written in digits and marks of ASCII. -/
theorem isXmlString_secondsText (instant : Calendar.Instant) :
    IsXmlString instant.secondsText := by
  intro c member
  rw [Calendar.Instant.secondsText, String.toList_ofList] at member
  exact isChar_of_mem_textWith (by simp) c member

theorem Metadata.isWritable {metadata : Metadata}
    (legal : ∀ text ∈ metadata.texts, IsXmlString text)
    (legalRoot : ∀ details ∈ Tree.valuesAll metadata.component.toList, ∀ text ∈ details.texts,
      IsXmlString text) : metadata.element.IsWritable := by
  simp only [texts, List.forall_mem_append, List.forall_mem_flatMap] at legal
  obtain ⟨⟨legalStages, legalTools⟩, legalAuthors⟩ := legal
  have time : AllWritable (metadata.timestamp.map fun instant =>
      Element.text "timestamp" [] instant.secondsText).toList :=
    allWritable_toList_map.mpr fun instant _ =>
      .text (isTag_bare rfl) (isXmlString_secondsText instant)
  have stages : AllWritable (listElement "lifecycles" (metadata.lifecycles.map fun stage =>
      .parent "lifecycle" [] stage.elements)) :=
    allWritable_listElement_map rfl fun stage member =>
      isWritable_parent rfl (Lifecycle.allWritable (legalStages stage member))
  have tools : AllWritable (listElement "tools" (metadata.tools.map Tool.element)) :=
    allWritable_listElement_map rfl fun tool member => Tool.isWritable (legalTools tool member)
  have authors : AllWritable (listElement "authors"
      (metadata.authors.map (Contact.element "author"))) :=
    allWritable_listElement_map rfl fun author member =>
      Contact.isWritable rfl (legalAuthors author member)
  have root : AllWritable (metadata.component.map componentElement).toList := by
    cases component : metadata.component with
    | none => simp
    | some tree =>
        rw [component] at legalRoot
        simpa using isWritable_componentElement tree (by simpa using legalRoot)
  refine isWritable_parent rfl ?_
  simp only [allWritable_append]
  exact ⟨⟨⟨⟨time, stages⟩, tools⟩, authors⟩, root⟩

theorem Dependency.isWritable {record : Dependency}
    (legal : ∀ text ∈ record.texts, IsXmlString text) : record.element.IsWritable := by
  simp only [texts, List.forall_mem_cons] at legal
  have tag : ∀ {ref : String}, IsXmlString ref → IsTag "dependency" [("ref", ref)] :=
    fun legalRef => isTag_cons rfl (by simp) legalRef (isTag_bare rfl)
  unfold element
  split
  · exact .empty (tag legal.1)
  · exact .parent (tag legal.1)
      (allWritable_map.mpr fun target member => .empty (tag (legal.2 target member)))

theorem isXmlString_xmlNamespace (version : SpecVersion) : IsXmlString version.xmlNamespace := by
  cases version <;> decide

theorem isXmlString_decimalText (value : Nat) : IsXmlString (Text.decimalText value) := by
  intro c member
  rw [Text.decimalText, String.toList_ofList] at member
  exact isChar_of_isDigit (Text.isDigit_of_mem_decimal member)

/-- A document can be written as XML if XML can carry its texts. -/
theorem Bom.isWritable {bom : Bom} (legal : ∀ text ∈ bom.texts, IsXmlString text)
    (version : SpecVersion) : (bom.element version).IsWritable := by
  simp only [texts, trees, Tree.valuesAll_append, List.forall_mem_cons, List.forall_mem_append,
    List.forall_mem_flatMap] at legal
  obtain ⟨⟨⟨legalSerial, legalMetadata⟩, legalRoot, legalComponents⟩, legalRecords⟩ := legal
  have versioned : IsTag "bom" [("version", Text.decimalText bom.version)] :=
    isTag_cons rfl (by simp) (isXmlString_decimalText bom.version) (isTag_bare rfl)
  have tag : IsTag "bom" (("xmlns", version.xmlNamespace) ::
      ((if bom.serialNumber.isEmpty then [] else [("serialNumber", bom.serialNumber)]) ++
        [("version", Text.decimalText bom.version)])) := by
    have legalNamespace := isXmlString_xmlNamespace version
    split
    · exact isTag_cons rfl (by simp) legalNamespace versioned
    · exact isTag_cons rfl (by simp) legalNamespace
        (isTag_cons rfl (by simp) legalSerial versioned)
  refine .parent tag ?_
  refine allWritable_cons.mpr
    ⟨Metadata.isWritable legalMetadata legalRoot, allWritable_append.mpr ⟨?_, ?_⟩⟩
  · exact allWritable_listElement rfl
      (allWritable_componentElements bom.components legalComponents)
  · exact allWritable_listElement_map rfl fun record member =>
      Dependency.isWritable (legalRecords record member)

/-- A sound document of texts that XML can carry is written in every version and encoding. -/
theorem Bom.exists_written {bom : Bom} {version encoding : String} {target : SpecVersion}
    {form : Encoding} (known : SpecVersion.parse version = .ok target)
    (isForm : Encoding.parse encoding = .ok form) (sound : bom.IsSound)
    (legal : ∀ text ∈ bom.texts, IsXmlString text) : ∃ text, bom.Written version encoding text :=
  ⟨_, written_iff.mpr
    ⟨target, form, known, isForm, defect?_eq_none_iff.mpr ⟨sound, fun _ => legal⟩, rfl⟩⟩

/-- What is written as XML is the well-formed document of its root element. -/
theorem Bom.Written.isDocument {bom : Bom} {version encoding : String} {text : List Char}
    (written : bom.Written version encoding text) (isXml : Encoding.parse encoding = .ok .xml) :
    ∃ target, SpecVersion.parse version = .ok target ∧
      Xml.IsDocument text "bom" (((bom.downgrade target).element target).tokens 0) := by
  obtain ⟨target, form, versionParses, encodingParses, valid, rfl⟩ := written_iff.mp written
  cases encodingParses.symm.trans isXml
  have legal := (defect?_eq_none_iff.mp valid).2 rfl
  have legalDowngrade : ∀ text ∈ (bom.downgrade target).texts, IsXmlString text :=
    fun text member => legal text (mem_texts_of_mem_downgrade text member)
  exact ⟨target, versionParses, (isWritable legalDowngrade target).isDocument⟩

/-- XML output is a well-formed document with one root element, whatever texts the document holds.
These do not decide about its tags either: another document of the same shape is written with the
same tags and the same attributes in each of them. -/
theorem written_isDocument {bom : Bom} {version encoding : String} {text : List Char}
    (isXml : Encoding.parse encoding = .ok .xml) (written : bom.Written version encoding text) :
    ∃ element, Xml.IsDocument text "bom" element ∧
      ∀ (other : Bom) (otherText : List Char), other.Written version encoding otherText →
        other.shape = bom.shape →
        ∃ otherElement, Xml.IsDocument otherText "bom" otherElement ∧
          Xml.marks otherElement = Xml.marks element := by
  obtain ⟨target, versionParses, isDocument⟩ := written.isDocument isXml
  refine ⟨_, isDocument, fun other otherText otherWritten same => ?_⟩
  obtain ⟨otherTarget, otherParses, otherIsDocument⟩ := otherWritten.isDocument isXml
  cases versionParses.symm.trans otherParses
  refine ⟨_, otherIsDocument, ?_⟩
  rw [Xml.marks_tokens, Xml.marks_tokens, Bom.marks_downgrade_congr same]

/-- A document whose texts look like markup. -/
def hostileBom : Bom where
  metadata := { component := some (.leaf { ref := "\x22/><x y=\x22", name := "</name><evil>" }) }
  dependencies := [{ ref := "\x22/><x y=\x22", dependsOn := ["&amp;"] }]

/-- A document with the same shape and tame texts. -/
def tameBom : Bom where
  metadata := { component := some (.leaf { ref := "app", name := "app" }) }
  dependencies := [{ ref := "app", dependsOn := ["lib"] }]

theorem written_hostileBom_isDocument :
    ∃ text element tameText tameElement,
      hostileBom.Written "1.4" " XML" text ∧ Xml.IsDocument text "bom" element ∧
      tameBom.Written "1.4" " XML" tameText ∧ Xml.IsDocument tameText "bom" tameElement ∧
      Xml.marks tameElement = Xml.marks element := by
  have known : SpecVersion.parse "1.4" = .ok .v1_4 := by rfl
  have isXml : Encoding.parse " XML" = .ok .xml := by rfl
  have hostile : hostileBom.Written "1.4" " XML" _ := Bom.written_iff.mpr ⟨_, _, known, isXml,
    Bom.defect?_eq_none_iff.mpr ⟨⟨by decide, by decide⟩, fun _ => by decide⟩, rfl⟩
  have tame : tameBom.Written "1.4" " XML" _ := Bom.written_iff.mpr ⟨_, _, known, isXml,
    Bom.defect?_eq_none_iff.mpr ⟨⟨by decide, by decide⟩, fun _ => by decide⟩, rfl⟩
  obtain ⟨element, isDocument, sameTags⟩ := written_isDocument isXml hostile
  obtain ⟨tameElement, tameIsDocument, same⟩ := sameTags tameBom _ tame rfl
  exact ⟨_, element, _, tameElement, hostile, isDocument, tame, tameIsDocument, same⟩

end Sbom.CycloneDx
