import Sbom.Proofs.Layout
import Sbom.Proofs.Written

/-!
# JSON output

Every object of the value form of a document has its keys from a fixed list, in the order of that
list; so no key stands twice. The text of the document is then read back as the value form, behind the
two markers of format and version. `ComponentIn` finds the components in what was read: they are those
of the document, and each has a type.
-/

namespace Sbom

namespace Json

/-- The value of the first member of an object with a key. -/
def member? (value : Json) (key : String) : Option Json :=
  match value with
  | .object members => members.lookup key
  | _ => none

/-- Whether the keys of members are some of the given ones in their order, and the values are tidy. -/
structure IsRecord (keys : List String) (members : List (String × Json)) : Prop where
  keys : (members.map Prod.fst).Sublist keys
  values : ∀ member ∈ members, member.2.IsTidy

namespace IsRecord

variable {keys others : List String} {members rest : List (String × Json)}

theorem nil : IsRecord [] [] where
  keys := .slnil
  values := by simp

theorem cons {key : String} {value : Json} (tidy : value.IsTidy) (record : IsRecord others rest) :
    IsRecord (key :: others) ((key, value) :: rest) where
  keys := record.keys.cons_cons key
  values := List.forall_mem_cons.mpr ⟨tidy, record.values⟩

theorem append (first : IsRecord keys members) (second : IsRecord others rest) :
    IsRecord (keys ++ others) (members ++ rest) where
  keys := by
    rw [List.map_append]
    exact first.keys.append second.keys
  values := List.forall_mem_append.mpr ⟨first.values, second.values⟩

/-- An object of such members has no key twice if the given keys are distinct. -/
theorem isTidy (record : IsRecord keys members) (distinct : keys.Nodup) :
    (Json.object members).IsTidy :=
  .object (distinct.sublist record.keys) record.values

/-- A key that is none of the given ones has no member. -/
theorem lookup_eq_none (record : IsRecord keys members) {key : String} (absent : key ∉ keys) :
    members.lookup key = none := by
  rw [List.lookup_eq_none_iff]
  intro member isMember
  have listed := record.keys.subset (List.mem_map_of_mem isMember)
  exact bne_iff_ne.mpr fun same => absent (same ▸ listed)

end IsRecord

end Json

namespace CycloneDx

open Json (IsRecord)

theorem isRecord_textMember (name text : String) : IsRecord [name] (textMember name text) := by
  unfold textMember
  split
  · exact ⟨List.nil_sublist _, by simp⟩
  · exact .cons (.string text) .nil

theorem isRecord_items (name : String) {items : List Json} (tidy : ∀ item ∈ items, item.IsTidy) :
    IsRecord [name] (listMember name items) := by
  unfold listMember
  split
  · exact ⟨List.nil_sublist _, by simp⟩
  · exact .cons (.array tidy) .nil

section Parts

variable {α : Type} {form : α → Json} (tidy : ∀ part, (form part).IsTidy)
include tidy

theorem isTidy_array_map (parts : List α) : (Json.array (parts.map form)).IsTidy :=
  .array (List.forall_mem_map.mpr fun part _ => tidy part)

theorem isRecord_listMember (name : String) (parts : List α) :
    IsRecord [name] (listMember name (parts.map form)) :=
  isRecord_items name (List.forall_mem_map.mpr fun part _ => tidy part)

theorem isRecord_optionMember (name : String) (part? : Option α) :
    IsRecord [name] (optionMember name (part?.map form)) := by
  cases part? with
  | none => exact ⟨List.nil_sublist _, by simp [optionMember]⟩
  | some part => exact .cons (tidy part) .nil

end Parts

theorem Contact.isTidy (contact : Contact) : contact.toJson.IsTidy :=
  (((isRecord_textMember _ _).append (isRecord_textMember _ _)).append
    (isRecord_textMember _ _)).isTidy (by decide)

theorem Organization.isTidy (organization : Organization) : organization.toJson.IsTidy :=
  (IsRecord.cons (.string _) ((isRecord_listMember .string _ _).append
    (isRecord_listMember Contact.isTidy _ _))).isTidy (by decide)

theorem Hash.isTidy (hash : Hash) : hash.toJson.IsTidy :=
  (IsRecord.cons (.string _) (.cons (.string _) .nil)).isTidy (by decide)

theorem LicenseChoice.isTidy (choice : LicenseChoice) : choice.toJson.IsTidy := by
  cases choice with
  | license id name =>
      have named := ((isRecord_optionMember .string "id" id).append
        (isRecord_optionMember .string "name" name)).isTidy (by decide)
      exact (IsRecord.cons named .nil).isTidy (by decide)
  | expression text => exact (IsRecord.cons (.string text) .nil).isTidy (by decide)

theorem ExternalReference.isTidy (reference : ExternalReference) : reference.toJson.IsTidy :=
  (IsRecord.cons (.string _) (.cons (.string _) .nil)).isTidy (by decide)

/-- The keys of a component apart from the list of the nested components. -/
def ComponentDetails.keys : List String := [
  "type", "bom-ref", "supplier", "name", "version", "description", "hashes", "licenses",
  "copyright", "cpe", "purl", "externalReferences"]

theorem ComponentDetails.isRecord (details : ComponentDetails) :
    IsRecord ComponentDetails.keys details.members := by
  have described := ((isRecord_textMember "bom-ref" details.ref).append
    (isRecord_optionMember Organization.isTidy "supplier" details.supplier))
  have versioned := (isRecord_textMember "version" details.version).append
    (isRecord_textMember "description" details.description)
  have listed := (versioned.append (isRecord_listMember Hash.isTidy "hashes" details.hashes)).append
    (isRecord_listMember LicenseChoice.isTidy "licenses" details.licenses)
  have identified := ((listed.append (isRecord_textMember "copyright" details.copyright)).append
    (isRecord_textMember "cpe" details.cpe)).append (isRecord_textMember "purl" details.packageUrl)
  have linked := identified.append
    (isRecord_listMember ExternalReference.isTidy "externalReferences" details.externalReferences)
  exact .cons (.string _) (described.append (.cons (.string _) linked))

mutual

theorem isTidy_componentValue : (component : Component) → (componentValue component).IsTidy
  | .node details children =>
    (details.isRecord.append (isRecord_items "components"
      (isTidy_componentValues children))).isTidy (by decide)

theorem isTidy_componentValues :
    (components : List Component) → ∀ value ∈ componentValues components, value.IsTidy
  | [] => fun _ none => absurd none List.not_mem_nil
  | component :: rest =>
    List.forall_mem_cons.mpr ⟨isTidy_componentValue component, isTidy_componentValues rest⟩

end

theorem Lifecycle.isTidy (stage : Lifecycle) : stage.toJson.IsTidy := by
  cases stage with
  | phase value => exact (IsRecord.cons (.string value.name) .nil).isTidy (by decide)
  | named name description =>
      exact (IsRecord.cons (.string name) (isRecord_textMember _ _)).isTidy (by decide)

theorem Tool.isTidy (tool : Tool) : tool.toJson.IsTidy :=
  (((isRecord_textMember _ _).append (isRecord_textMember _ _)).append
    (isRecord_textMember _ _)).isTidy (by decide)

/-- The members of metadata before the root component. -/
def Metadata.leadingMembers (metadata : Metadata) : List (String × Json) :=
  optionMember "timestamp" (metadata.timestamp.map fun instant => .string instant.text) ++
    listMember "lifecycles" (metadata.lifecycles.map Lifecycle.toJson) ++
    listMember "tools" (metadata.tools.map Tool.toJson) ++
    listMember "authors" (metadata.authors.map Contact.toJson)

theorem Metadata.toJson_eq (metadata : Metadata) :
    metadata.toJson = .object (metadata.leadingMembers ++
      optionMember "component" (metadata.component.map componentValue)) := rfl

theorem Metadata.isRecord (metadata : Metadata) :
    IsRecord ["timestamp", "lifecycles", "tools", "authors"] metadata.leadingMembers :=
  (((isRecord_optionMember (fun _ => .string _) _ _).append
    (isRecord_listMember Lifecycle.isTidy _ _)).append
    (isRecord_listMember Tool.isTidy _ _)).append (isRecord_listMember Contact.isTidy _ _)

theorem Metadata.isTidy (metadata : Metadata) : metadata.toJson.IsTidy := by
  rw [toJson_eq]
  exact (metadata.isRecord.append
    (isRecord_optionMember isTidy_componentValue "component" metadata.component)).isTidy (by decide)

theorem Dependency.isTidy (record : Dependency) : record.toJson.IsTidy :=
  (IsRecord.cons (.string _) (.cons (isTidy_array_map .string _) .nil)).isTidy (by decide)

/-- What is written for a document is an object without repeated keys, and so are the objects in it. -/
theorem Bom.isTidy_envelope (bom : Bom) (version : SpecVersion) :
    (bom.envelope version).IsTidy := by
  have fixed : IsRecord ["version", "metadata", "components", "dependencies"] _ :=
    .cons (.nat bom.version) (.cons bom.metadata.isTidy
      (.cons (.array (isTidy_componentValues bom.components))
        (.cons (isTidy_array_map Dependency.isTidy bom.dependencies) .nil)))
  exact (IsRecord.cons (.string _) (.cons (.string _)
    ((isRecord_textMember "serialNumber" bom.serialNumber).append fixed))).isTidy (by decide)

section Components

/-- The values that stand where a document has its components. -/
inductive ComponentIn (document : Json) : Json → Prop where
  /-- The root component. -/
  | root {metadata value : Json} (described : document.member? "metadata" = some metadata)
      (isRoot : metadata.member? "component" = some value) : ComponentIn document value
  /-- A top-level component. -/
  | topLevel {items : List Json} {value : Json}
      (listed : document.member? "components" = some (.array items)) (isItem : value ∈ items) :
      ComponentIn document value
  /-- A component nested in another one. -/
  | nested {parent : Json} {items : List Json} {value : Json}
      (isComponent : ComponentIn document parent)
      (listed : parent.member? "components" = some (.array items)) (isItem : value ∈ items) :
      ComponentIn document value

theorem componentValues_eq_map (components : List Component) :
    componentValues components = components.map componentValue := by
  induction components with
  | nil => rfl
  | cons component rest inductionHypothesis =>
      rw [componentValues, inductionHypothesis, List.map_cons]

variable {bom : Bom} {version : SpecVersion}

theorem Bom.member?_metadata :
    (bom.envelope version).member? "metadata" = some bom.metadata.toJson := by
  have serial := (isRecord_textMember "serialNumber" bom.serialNumber).lookup_eq_none
    (by decide : "metadata" ∉ ["serialNumber"])
  simp [envelope, members, Json.member?, List.lookup_append, List.lookup_cons, serial]

theorem member?_components_componentValue (component : Component) :
    (componentValue component).member? "components" =
      if component.children.isEmpty then none
      else some (.array (component.children.map componentValue)) := by
  cases component with
  | node details children =>
      have leading := details.isRecord.lookup_eq_none
        (by decide : "components" ∉ ComponentDetails.keys)
      rw [componentValue, Json.member?]
      simp only [List.lookup_append, leading, Option.none_or, listMember, componentValues_eq_map]
      cases children <;> simp [Tree.children]

section Walk

variable {document : Json}

mutual

/-- The components nested in a component that is found are found, too. -/
theorem componentIn_of_mem_preorder : (tree : Component) →
    ComponentIn document (componentValue tree) →
    ∀ component ∈ tree.preorder, ComponentIn document (componentValue component)
  | .node details children, found => by
    rw [Tree.preorder_node, List.forall_mem_cons]
    refine ⟨found, componentIn_of_mem_preorderAll children fun child isChild => ?_⟩
    have listed : (componentValue (.node details children)).member? "components" =
        some (.array (children.map componentValue)) := by
      rw [member?_components_componentValue, if_neg]
      · rfl
      · simpa [Tree.children] using List.ne_nil_of_mem isChild
    exact .nested found listed (List.mem_map_of_mem isChild)

theorem componentIn_of_mem_preorderAll : (trees : List Component) →
    (∀ tree ∈ trees, ComponentIn document (componentValue tree)) →
    ∀ component ∈ Tree.preorderAll trees, ComponentIn document (componentValue component)
  | [], _ => fun _ none => absurd none List.not_mem_nil
  | tree :: rest, found => by
    obtain ⟨foundFirst, foundRest⟩ := List.forall_mem_cons.mp found
    rw [Tree.preorderAll_cons, List.forall_mem_append]
    exact ⟨componentIn_of_mem_preorder tree foundFirst,
      componentIn_of_mem_preorderAll rest foundRest⟩

end

end Walk

end Components

end CycloneDx

end Sbom
