import Sbom.Proofs.NodeLosses
import Sbom.Proofs.Texts

/-!
# What a component keeps of its node

A component whose mapping reported nothing keeps the texts of its node: the plain fields, all
digests, package URL and CPE name, all links, and of the supplier the name, the web address and the
immediate contacts. An organization has no email address and no phone number of its own, and a
contact has no contacts. These texts of a supplier are left out, and nothing reports it.
-/

namespace Sbom

open Sbom.Graph (IdentifierKind Node Person PersonDetails)

/-- A key has a value exactly if the two are an entry. -/
theorem OrderedMap.get?_eq_some_iff {κ ν : Type} [DecidableEq κ] {map : OrderedMap κ ν} {key : κ}
    {value : ν} : map.get? key = some value ↔ (key, value) ∈ map.entries := by
  rw [← Option.mem_toList, ← filter_key_eq]
  simp

namespace Conversion

open CycloneDx (Component ComponentDetails LicenseChoice)

/-- The texts by which a person is known and reached, apart from the web address. -/
def contactTexts (details : PersonDetails) : List String :=
  [details.name, details.email, details.phone]

/-- The texts of a supplier: its web address, and how it and its contacts at every depth are known
and reached. -/
def supplierTexts (supplier : Person) : List String :=
  supplier.value.url :: supplier.values.flatMap contactTexts

/-- The texts of a supplier that an organization keeps. -/
def keptSupplierTexts (supplier : Person) : List String :=
  [supplier.value.name, supplier.value.url] ++
    supplier.children.flatMap fun contact => contactTexts contact.value

/-- The texts of a supplier that an organization has no place for: how to reach the supplier itself,
and the contacts of its contacts. -/
def silentTexts (supplier : Person) : List String :=
  [supplier.value.email, supplier.value.phone] ++
    (supplier.children.flatMap fun contact => Tree.valuesAll contact.children).flatMap contactTexts

/-- The package URL and the CPE names of a node. -/
def packageNames (node : Node) : List String :=
  (node.identifiers.entries.filter fun identifier =>
    identifier.1 ∈ [IdentifierKind.packageUrl, .cpe22, .cpe23]).map Prod.snd

/-- The texts of a node apart from its suppliers, its id, its name and its licences. -/
def fieldTexts (node : Node) : List String :=
  [node.version, node.description, node.copyright] ++ node.hashes.entries.map Prod.snd ++
    packageNames node ++
    node.externalReferences.flatMap fun reference => [reference.kind, reference.url]

/-- The texts of a node that a component should hold or report. -/
def heldTexts (node : Node) : List String :=
  fieldTexts node ++ node.suppliers.flatMap supplierTexts

/-- The texts of a node that a component has a place for. -/
def keptTexts (node : Node) : List String :=
  [node.id, node.name] ++
    (node.licenses.flatMap fun license => LicenseChoice.texts (licenseChoice license)) ++
    fieldTexts node ++ node.suppliers.flatMap keptSupplierTexts

variable {node : Node} {text : String}

/-- How contacts at every depth are reached: the contacts themselves, and the contacts of these. -/
theorem mem_contactTexts_iff (contacts : List Person) :
    text ∈ (Tree.valuesAll contacts).flatMap contactTexts ↔
      text ∈ (contacts.flatMap fun contact => contactTexts contact.value) ∨
        text ∈ (contacts.flatMap fun contact => Tree.valuesAll contact.children).flatMap
          contactTexts := by
  induction contacts with
  | nil => simp
  | cons contact rest inductionHypothesis =>
      simp only [Tree.valuesAll_cons, Tree.values_eq, List.flatMap_append, List.flatMap_cons,
        List.mem_append, inductionHypothesis]
      tauto

/-- Each text of a supplier is one that an organization keeps or one that it has no place for. -/
theorem mem_supplierTexts_iff {supplier : Person} :
    text ∈ supplierTexts supplier ↔
      text ∈ keptSupplierTexts supplier ∨ text ∈ silentTexts supplier := by
  simp only [supplierTexts, keptSupplierTexts, silentTexts, Tree.values_eq, List.flatMap_cons,
    List.mem_cons, List.mem_append, mem_contactTexts_iff supplier.children, contactTexts,
    List.not_mem_nil, or_false]
  tauto

/-- Each held text is one that a component has a place for or a silent one of a supplier. -/
theorem mem_heldTexts {text : String} (held : text ∈ heldTexts node) :
    text ∈ keptTexts node ∨ ∃ supplier ∈ node.suppliers, text ∈ silentTexts supplier := by
  rcases List.mem_append.mp held with isField | ofSupplier
  · exact .inl (by simp [keptTexts, isField])
  · obtain ⟨supplier, member, isText⟩ := List.mem_flatMap.mp ofSupplier
    rcases mem_supplierTexts_iff.mp isText with kept | silent
    · exact .inl (List.mem_append_right _ (List.mem_flatMap.mpr ⟨supplier, member, kept⟩))
    · exact .inr ⟨supplier, member, silent⟩

section Reportless

variable (nothing : mappingReport node = [])
include nothing

/-- What a node without losses lacks: digests of unknown algorithms, a hidden CPE name, and more than
one supplier. -/
theorem lossless_cases :
    (∀ digest ∈ node.hashes.entries, IsKnownAlgorithm digest.1) ∧ hiddenCpes node = [] ∧
      node.suppliers.drop 1 = [] := by
  rw [mappingReport_eq] at nothing
  simp only [lossesOf, List.append_eq_nil_iff, List.map_eq_nil_iff] at nothing
  obtain ⟨⟨⟨⟨⟨_, hashes⟩, _⟩, _⟩, cpes⟩, suppliers⟩ := nothing
  refine ⟨?_, cpes, suppliers⟩
  simpa [List.filter_eq_nil_iff] using hashes

/-- All digests are carried. -/
theorem mappedHashes_content :
    (mappedHashes node).map CycloneDx.Hash.content = node.hashes.entries.map Prod.snd := by
  have allKnown : (node.hashes.entries.filter fun digest => IsKnownAlgorithm digest.1) =
      node.hashes.entries :=
    List.filter_eq_self.mpr fun digest member =>
      decide_eq_true ((lossless_cases nothing).1 digest member)
  have carried : List.Forall₂ _ _ (mappedHashes node) := mappedHashes_forall₂
  rw [allKnown] at carried
  generalize node.hashes.entries = digests, mappedHashes node = hashes at carried
  induction carried with
  | nil => rfl
  | cons image _ inductionHypothesis =>
      rw [List.map_cons, List.map_cons, image.2, inductionHypothesis]

/-- The package URL and the CPE name are carried. -/
theorem mem_packageNames_iff (notEmpty : text ≠ "") :
    text ∈ packageNames node ↔ text = mappedCpe node ∨ text = mappedPackageUrl node := by
  have isHeld : text ∈ packageNames node ↔ node.identifiers.get? .packageUrl = some text ∨
      node.identifiers.get? .cpe22 = some text ∨ node.identifiers.get? .cpe23 = some text := by
    simp only [OrderedMap.get?_eq_some_iff, packageNames, List.mem_map, List.mem_filter,
      decide_eq_true_eq, List.mem_cons, List.not_mem_nil, or_false]
    constructor
    · rintro ⟨⟨kind, value⟩, ⟨member, rfl | rfl | rfl⟩, rfl⟩ <;> simp [member]
    · rintro (member | member | member) <;> exact ⟨_, ⟨member, by simp⟩, rfl⟩
  have isPackageUrl : text = mappedPackageUrl node ↔
      node.identifiers.get? .packageUrl = some text := by
    unfold mappedPackageUrl
    cases node.identifiers.get? .packageUrl <;> simp [notEmpty, eq_comm]
  have isCpe : text = mappedCpe node ↔ node.identifiers.get? .cpe22 = some text ∨
      node.identifiers.get? .cpe23 = some text := by
    have notBoth := (lossless_cases nothing).2.1
    rw [hiddenCpes_eq] at notBoth
    unfold mappedCpe
    cases newer : node.identifiers.get? .cpe23 with
    | none => cases node.identifiers.get? .cpe22 <;> simp [notEmpty, eq_comm]
    | some _ =>
        cases older : node.identifiers.get? .cpe22 with
        | none => simp [eq_comm]
        | some _ => simp [newer, older] at notBoth
  rw [isHeld, isPackageUrl, isCpe, or_comm]

/-- The texts of the one supplier are carried as far as an organization has a place for them. -/
theorem mem_supplier_iff (notEmpty : text ≠ "") :
    text ∈ (node.suppliers.head?.map organization).toList.flatMap CycloneDx.Organization.texts ↔
      text ∈ node.suppliers.flatMap keptSupplierTexts := by
  have noOther := (lossless_cases nothing).2.2
  cases suppliers : node.suppliers with
  | nil => simp
  | cons supplier rest =>
      rw [suppliers] at noOther
      cases rest with
      | cons _ _ => cases noOther
      | nil =>
          have urls : text ∈ (organization supplier).urls ↔ text = supplier.value.url := by
            unfold organization
            split
            case isTrue isEmpty => simp [String.isEmpty_iff.mp isEmpty, notEmpty]
            case isFalse => simp
          have contacts : (organization supplier).contacts.flatMap CycloneDx.Contact.texts =
              supplier.children.flatMap fun contact => contactTexts contact.value :=
            List.flatMap_map _ _ _
          have name : (organization supplier).name = supplier.value.name := rfl
          simp only [List.head?_cons, Option.map_some, Option.toList_some, List.flatMap_singleton,
            keptSupplierTexts, CycloneDx.Organization.texts, contacts, name, List.mem_cons,
            List.mem_append, urls, List.not_mem_nil, or_false, or_assoc]

/-- A component without losses holds the texts that it has a place for, and no others. -/
theorem mem_texts_iff (notEmpty : text ≠ "") :
    text ∈ (mappedComponent node).value.texts ↔ text ∈ keptTexts node := by
  have supplier := mem_supplier_iff nothing notEmpty
  have identifiers := mem_packageNames_iff nothing notEmpty
  have hashes := mappedHashes_content nothing
  have licenses : (node.licenses.map licenseChoice).flatMap LicenseChoice.texts =
      node.licenses.flatMap fun license => LicenseChoice.texts (licenseChoice license) :=
    List.flatMap_map _ _ _
  have references : (mappedReferences node).flatMap CycloneDx.ExternalReference.texts =
      node.externalReferences.flatMap fun reference => [reference.kind, reference.url] :=
    List.flatMap_map _ _ _
  simp only [ComponentDetails.texts, mappedComponent, Tree.leaf, Tree.value, keptTexts, fieldTexts,
    List.mem_append, List.mem_cons, List.not_mem_nil, or_false, supplier, hashes, identifiers,
    licenses, references]
  simp only [or_assoc, or_comm, or_left_comm]

end Reportless

/-- Which texts of a node are lost although its mapping reports nothing: those that tell how to reach
the supplier itself or concern the contacts of its contacts, unless the component has them from
somewhere else. All other texts of the node are found in the component. -/
theorem mapNode_lost_iff {component : Component} (maps : mapNode node = some (component, [])) :
    ∀ text ∈ heldTexts node, text ≠ "" →
      (text ∉ component.value.texts ↔
        (∃ supplier ∈ node.suppliers, text ∈ silentTexts supplier) ∧ text ∉ keptTexts node) := by
  intro text held notEmpty
  obtain ⟨_, rfl, nothing⟩ := mapNode_eq_some_iff.mp maps
  rw [mem_texts_iff nothing notEmpty]
  refine ⟨fun lost => ⟨?_, lost⟩, And.right⟩
  exact (mem_heldTexts held).resolve_left lost

/-- A node whose supplier has an email address, and a contact with a contact of its own. -/
def vendoredNode : Node where
  id := "lib"
  version := "1.2"
  suppliers := [.node { name := "vendor", email := "info@vendor.example" }
    [.node { name := "desk" } [.leaf { name := "clerk" }]]]

theorem mapNode_vendoredNode_lost :
    ∃ component, mapNode vendoredNode = some (component, []) ∧
      "1.2" ∈ component.value.texts ∧ "desk" ∈ component.value.texts ∧
      "info@vendor.example" ∉ component.value.texts ∧ "clerk" ∉ component.value.texts := by
  have maps : mapNode vendoredNode = some (_, []) := rfl
  have lost := mapNode_lost_iff maps
  refine ⟨_, maps, ?_, ?_, ?_, ?_⟩
  · by_contra missing
    exact absurd ((lost "1.2" (by decide) (by decide)).mp missing) (by decide)
  · by_contra missing
    exact absurd ((lost "desk" (by decide) (by decide)).mp missing) (by decide)
  · exact (lost "info@vendor.example" (by decide) (by decide)).mpr (by decide)
  · exact (lost "clerk" (by decide) (by decide)).mpr (by decide)

/-- A mapping that reports nothing need not keep every text. -/
theorem not_forall_mapNode_keeps :
    ¬ ∀ (node : Node) (component : Component), node.id ≠ "" →
      mapNode node = some (component, []) →
      ∀ text ∈ heldTexts node, text ≠ "" → text ∈ component.value.texts := by
  intro keepsAll
  have kept := keepsAll vendoredNode _ (by decide) rfl "info@vendor.example" (by decide)
    (by decide)
  revert kept
  decide

end Conversion

end Sbom
