import Mathlib.Data.Option.Basic
import Sbom.CycloneDx.ValueForm
import Sbom.Proofs.Digits
import Sbom.Proofs.Instants
import Sbom.Proofs.Labels
import Sbom.Proofs.Traversal

/-!
# What the value form tells

`Bom.plain` is a document as it is written: every component has a type, and every phase of life is
given by its name. The value form of a document is that of its plain form, and it determines the plain
form: each object lines up members with distinct keys, and each member tells the part it is for.
-/

namespace Sbom.CycloneDx

section Plain

/-- What is known of a component, with the type that is written. -/
def ComponentDetails.plain (details : ComponentDetails) : ComponentDetails :=
  { details with type := some details.writtenType }

/-- A stage of life, with its phase given by name. -/
def Lifecycle.plain : Lifecycle → Lifecycle
  | .phase value => .phase (.custom value.name)
  | .named name description => .named name description

/-- Metadata as they are written. -/
def Metadata.plain (metadata : Metadata) : Metadata :=
  { metadata with
    lifecycles := metadata.lifecycles.map Lifecycle.plain
    component := metadata.component.map (Tree.map ComponentDetails.plain) }

/-- A document as it is written. -/
def Bom.plain (bom : Bom) : Bom :=
  { bom with
    metadata := bom.metadata.plain
    components := Tree.mapAll ComponentDetails.plain bom.components }

end Plain

section PlainForms

theorem ComponentDetails.members_plain (details : ComponentDetails) :
    details.plain.members = details.members := rfl

mutual

theorem componentValue_plain : (component : Component) →
    componentValue (component.map ComponentDetails.plain) = componentValue component
  | .node details children => by
    rw [Tree.map, componentValue, componentValue, details.members_plain,
      componentValues_plain children]

theorem componentValues_plain : (components : List Component) →
    componentValues (Tree.mapAll ComponentDetails.plain components) = componentValues components
  | [] => rfl
  | component :: rest => by
    rw [Tree.mapAll, componentValues, componentValues, componentValue_plain component,
      componentValues_plain rest]

end

theorem Lifecycle.toJson_plain (stage : Lifecycle) : stage.plain.toJson = stage.toJson := by
  cases stage <;> rfl

theorem Metadata.toJson_plain (metadata : Metadata) : metadata.plain.toJson = metadata.toJson := by
  simp [toJson, plain, Function.comp_def, Lifecycle.toJson_plain, componentValue_plain]

/-- A document is written like its plain form. -/
theorem Bom.members_plain (bom : Bom) : bom.plain.members = bom.members := by
  simp [members, plain, Metadata.toJson_plain, componentValues_plain]

end PlainForms

section Members

variable {name : String}

@[simp] theorem isPart_textMember (text : String) : IsPart Prod.fst name (textMember name text) := by
  unfold textMember
  split <;> simp [IsPart]

@[simp] theorem isPart_listMember (items : List Json) :
    IsPart Prod.fst name (listMember name items) := by
  unfold listMember
  split <;> simp [IsPart]

@[simp] theorem isPart_optionMember (value? : Option Json) :
    IsPart Prod.fst name (optionMember name value?) := by
  cases value? <;> simp [IsPart, optionMember]

@[simp] theorem isPart_member (value : Json) : IsPart Prod.fst name [(name, value)] := by
  simp [IsPart]

@[simp] theorem textMember_inj {text other : String} :
    textMember name text = textMember name other ↔ text = other := by
  refine ⟨fun same => ?_, fun same => same ▸ rfl⟩
  unfold textMember at same
  split at same <;> split at same <;> simp_all

@[simp] theorem listMember_inj {items others : List Json} :
    listMember name items = listMember name others ↔ items = others := by
  cases items <;> cases others <;> simp [listMember]

@[simp] theorem optionMember_inj {value? other? : Option Json} :
    optionMember name value? = optionMember name other? ↔ value? = other? := by
  cases value? <;> cases other? <;> simp [optionMember]

theorem listMember_map_inj {α : Type} {form : α → Json} (injective : Function.Injective form)
    {parts others : List α} :
    listMember name (parts.map form) = listMember name (others.map form) ↔ parts = others := by
  rw [listMember_inj, (List.map_injective_iff.mpr injective).eq_iff]

theorem optionMember_map_inj {α : Type} {form : α → Json} (injective : Function.Injective form)
    {part? other? : Option α} :
    optionMember name (part?.map form) = optionMember name (other?.map form) ↔
      part? = other? := by
  rw [optionMember_inj, (Option.map_injective injective).eq_iff]

theorem string_injective : Function.Injective Json.string := fun _ _ => Json.string.inj

end Members

section Parts

/-- The members of a contact. -/
def Contact.memberParts (contact : Contact) : List (List (String × Json)) := [
  textMember "name" contact.name, textMember "email" contact.email, textMember "phone" contact.phone]

theorem Contact.toJson_injective : Function.Injective Contact.toJson := by
  intro left right same
  have labelled : ∀ contact : Contact,
      List.Forall₂ (IsPart Prod.fst) ["name", "email", "phone"] contact.memberParts := by
    simp [memberParts]
  have parts := parts_eq_of_flatten_eq (by decide) (labelled left) (labelled right)
    (by simpa [memberParts, toJson] using same)
  cases left
  cases right
  simpa [memberParts] using parts

/-- The members of an organization. -/
def Organization.memberParts (organization : Organization) : List (List (String × Json)) := [
  [("name", .string organization.name)], listMember "url" (organization.urls.map .string),
  listMember "contact" (organization.contacts.map Contact.toJson)]

theorem Organization.toJson_injective : Function.Injective Organization.toJson := by
  intro left right same
  have labelled : ∀ organization : Organization,
      List.Forall₂ (IsPart Prod.fst) ["name", "url", "contact"] organization.memberParts := by
    simp [memberParts]
  have parts := parts_eq_of_flatten_eq (by decide) (labelled left) (labelled right)
    (by simpa [memberParts, toJson] using same)
  cases left
  cases right
  simpa [memberParts, listMember_map_inj string_injective,
    listMember_map_inj Contact.toJson_injective] using parts

theorem HashAlgorithm.name_injective : Function.Injective HashAlgorithm.name := by
  have found : HashAlgorithm.ofName? ∘ HashAlgorithm.name = some := by
    funext algorithm
    cases algorithm <;> rfl
  exact Function.Injective.of_comp (f := ofName?) (found ▸ Option.some_injective HashAlgorithm)

theorem Hash.toJson_injective : Function.Injective Hash.toJson := by
  rintro ⟨algorithm, content⟩ ⟨other, otherContent⟩ same
  simpa [toJson, HashAlgorithm.name_injective.eq_iff] using same

theorem LicenseChoice.toJson_injective : Function.Injective LicenseChoice.toJson := by
  intro left right same
  cases left with
  | expression text => cases right <;> simp_all [toJson]
  | license id name =>
      cases right with
      | expression text => simp [toJson] at same
      | license otherId otherName =>
          have labelled : ∀ id name : Option String,
              List.Forall₂ (IsPart Prod.fst) ["id", "name"]
                [optionMember "id" (id.map .string), optionMember "name" (name.map .string)] := by
            simp
          have parts := parts_eq_of_flatten_eq (by decide) (labelled id name)
            (labelled otherId otherName) (by simpa [toJson] using same)
          simpa [optionMember_map_inj string_injective] using parts

theorem ExternalReference.toJson_injective : Function.Injective ExternalReference.toJson := by
  rintro ⟨type, url⟩ ⟨otherType, otherUrl⟩ same
  simpa [toJson] using same

theorem ComponentType.name_injective : Function.Injective ComponentType.name := by
  have found : ComponentType.ofName? ∘ ComponentType.name = some := by
    funext type
    cases type <;> rfl
  exact Function.Injective.of_comp (f := ofName?) (found ▸ Option.some_injective ComponentType)

/-- The members of a component. -/
def ComponentDetails.memberParts (details : ComponentDetails) : List (List (String × Json)) := [
  [("type", .string details.writtenType.name)], textMember "bom-ref" details.ref,
  optionMember "supplier" (details.supplier.map Organization.toJson),
  [("name", .string details.name)], textMember "version" details.version,
  textMember "description" details.description,
  listMember "hashes" (details.hashes.map Hash.toJson),
  listMember "licenses" (details.licenses.map LicenseChoice.toJson),
  textMember "copyright" details.copyright, textMember "cpe" details.cpe,
  textMember "purl" details.packageUrl,
  listMember "externalReferences" (details.externalReferences.map ExternalReference.toJson)]

/-- The members of a component with those nested in it determine what is written of both. -/
theorem ComponentDetails.eq_of_members_eq {left right : ComponentDetails} {items others : List Json}
    (same : left.members ++ listMember "components" items =
      right.members ++ listMember "components" others) :
    left.plain = right.plain ∧ items = others := by
  have labelled : ∀ (details : ComponentDetails) (items : List Json),
      List.Forall₂ (IsPart Prod.fst)
        ["type", "bom-ref", "supplier", "name", "version", "description", "hashes", "licenses",
          "copyright", "cpe", "purl", "externalReferences", "components"]
        (details.memberParts ++ [listMember "components" items]) := by
    simp [memberParts]
  have parts := parts_eq_of_flatten_eq (by decide) (labelled left items) (labelled right others)
    (by simpa [memberParts, members] using same)
  cases left
  cases right
  simpa [memberParts, plain, writtenType, ComponentType.name_injective.eq_iff,
    optionMember_map_inj Organization.toJson_injective, listMember_map_inj Hash.toJson_injective,
    listMember_map_inj LicenseChoice.toJson_injective,
    listMember_map_inj ExternalReference.toJson_injective, and_assoc] using parts

mutual

/-- The value form of a component determines what is written of it. -/
theorem plain_eq_of_componentValue_eq : (left right : Component) →
    componentValue left = componentValue right →
    left.map ComponentDetails.plain = right.map ComponentDetails.plain
  | .node details children, .node others otherChildren, same => by
    rw [componentValue, componentValue, Json.object.injEq] at same
    obtain ⟨sameDetails, sameChildren⟩ := ComponentDetails.eq_of_members_eq same
    rw [Tree.map, Tree.map, sameDetails,
      plain_eq_of_componentValues_eq children otherChildren sameChildren]

theorem plain_eq_of_componentValues_eq : (left right : List Component) →
    componentValues left = componentValues right →
    Tree.mapAll ComponentDetails.plain left = Tree.mapAll ComponentDetails.plain right
  | [], [], _ => rfl
  | component :: rest, other :: others, same => by
    rw [componentValues, componentValues, List.cons.injEq] at same
    rw [Tree.mapAll, Tree.mapAll, plain_eq_of_componentValue_eq component other same.1,
      plain_eq_of_componentValues_eq rest others same.2]

end

/-- The value form of a stage of life determines what is written of it. -/
theorem Lifecycle.plain_eq_of_toJson_eq {left right : Lifecycle}
    (same : left.toJson = right.toJson) : left.plain = right.plain := by
  cases left <;> cases right <;> simp_all [toJson, plain]

theorem Tool.toJson_injective : Function.Injective Tool.toJson := by
  intro left right same
  have labelled : ∀ tool : Tool, List.Forall₂ (IsPart Prod.fst) ["vendor", "name", "version"]
      [textMember "vendor" tool.vendor, textMember "name" tool.name,
        textMember "version" tool.version] := by
    simp
  have parts := parts_eq_of_flatten_eq (by decide) (labelled left) (labelled right)
    (by simpa [toJson] using same)
  cases left
  cases right
  simpa using parts

/-- The members of metadata. -/
def Metadata.memberParts (metadata : Metadata) : List (List (String × Json)) := [
  optionMember "timestamp" (metadata.timestamp.map fun instant => .string instant.text),
  listMember "lifecycles" (metadata.lifecycles.map Lifecycle.toJson),
  listMember "tools" (metadata.tools.map Tool.toJson),
  listMember "authors" (metadata.authors.map Contact.toJson),
  optionMember "component" (metadata.component.map componentValue)]

/-- The value form of metadata determines what is written of them. -/
theorem Metadata.plain_eq_of_toJson_eq {left right : Metadata}
    (same : left.toJson = right.toJson) : left.plain = right.plain := by
  have labelled : ∀ metadata : Metadata,
      List.Forall₂ (IsPart Prod.fst) ["timestamp", "lifecycles", "tools", "authors", "component"]
        metadata.memberParts := by
    simp [memberParts]
  have parts := parts_eq_of_flatten_eq (by decide) (labelled left) (labelled right)
    (by simpa [memberParts, toJson] using same)
  have times : Function.Injective fun instant : Calendar.Instant => Json.string instant.text :=
    fun instant other same => Calendar.Instant.text_inj.mp (Json.string.inj same)
  simp only [memberParts, List.cons.injEq, optionMember_map_inj times, listMember_inj,
    listMember_map_inj Tool.toJson_injective, listMember_map_inj Contact.toJson_injective,
    optionMember_inj] at parts
  obtain ⟨timestamp, stages, tools, authors, root, -⟩ := parts
  have lifecycles : left.lifecycles.map Lifecycle.plain = right.lifecycles.map Lifecycle.plain :=
    map_eq_map_of_determined (fun _ _ _ _ => Lifecycle.plain_eq_of_toJson_eq) stages
  have component : left.component.map (Tree.map ComponentDetails.plain) =
      right.component.map (Tree.map ComponentDetails.plain) :=
    option_map_eq_map_of_determined (fun _ _ _ _ => plain_eq_of_componentValue_eq _ _) root
  cases left
  cases right
  simp_all [plain]

theorem Dependency.toJson_injective : Function.Injective Dependency.toJson := by
  rintro ⟨ref, dependsOn⟩ ⟨otherRef, otherDependsOn⟩ same
  simpa [toJson, Json.strings, (List.map_injective_iff.mpr string_injective).eq_iff] using same

/-- The members of a document determine what is written of it. -/
theorem Bom.plain_eq_of_members_eq {left right : Bom} (same : left.members = right.members) :
    left.plain = right.plain := by
  have labelled : ∀ bom : Bom, List.Forall₂ (IsPart Prod.fst)
      ["serialNumber", "version", "metadata", "components", "dependencies"]
      [textMember "serialNumber" bom.serialNumber, [("version", .nat bom.version)],
        [("metadata", bom.metadata.toJson)],
        [("components", .array (componentValues bom.components))],
        [("dependencies", .array (bom.dependencies.map Dependency.toJson))]] := by
    simp
  have parts := parts_eq_of_flatten_eq (by decide) (labelled left) (labelled right)
    (by simpa [members] using same)
  simp only [List.cons.injEq, textMember_inj, Prod.mk.injEq, Json.nat, Json.number.injEq,
    Json.Number.ofNat, Json.Number.mk.injEq, Text.decimal_inj, Json.array.injEq, true_and, and_true,
    (List.map_injective_iff.mpr Dependency.toJson_injective).eq_iff] at parts
  obtain ⟨serialNumber, version, metadata, components, dependencies⟩ := parts
  have samePlain := Metadata.plain_eq_of_toJson_eq metadata
  have sameComponents := plain_eq_of_componentValues_eq _ _ components
  cases left
  cases right
  simp_all [plain]

/-- Two documents have the same members exactly if the same is written of them. -/
theorem Bom.members_eq_iff {left right : Bom} :
    left.members = right.members ↔ left.plain = right.plain := by
  refine ⟨plain_eq_of_members_eq, fun same => ?_⟩
  rw [← left.members_plain, same, right.members_plain]

end Parts

end Sbom.CycloneDx
