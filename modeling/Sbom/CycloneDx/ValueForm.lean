import Sbom.CycloneDx.Bom
import Sbom.Json.Value

/-!
# The value form of a document

A CycloneDX document as a JSON value. Members come in the order of their declaration. What is empty
or unset is left out, except the name and type of a component, the lists of a document and the
targets of a dependency record.
-/

namespace Sbom.CycloneDx

/-- A member with a string, left out when it is empty. -/
def textMember (name text : String) : List (String × Json) :=
  if text.isEmpty then [] else [(name, .string text)]

/-- A member with an array, left out when it is empty. -/
def listMember (name : String) (items : List Json) : List (String × Json) :=
  if items.isEmpty then [] else [(name, .array items)]

/-- A member with a value, left out when it is missing. -/
def optionMember (name : String) (value? : Option Json) : List (String × Json) :=
  match value? with
  | some value => [(name, value)]
  | none => []

/-- The value form of a contact. -/
def Contact.toJson (contact : Contact) : Json :=
  .object (textMember "name" contact.name ++ textMember "email" contact.email ++
    textMember "phone" contact.phone)

/-- The value form of an organization. -/
def Organization.toJson (organization : Organization) : Json :=
  .object (("name", .string organization.name) ::
    (listMember "url" (organization.urls.map .string) ++
      listMember "contact" (organization.contacts.map Contact.toJson)))

/-- The value form of a digest. -/
def Hash.toJson (hash : Hash) : Json :=
  .object [("alg", .string hash.algorithm.name), ("content", .string hash.content)]

/-- The value form of a licence. -/
def LicenseChoice.toJson : LicenseChoice → Json
  | .license id name =>
    .object [("license", .object (optionMember "id" (id.map .string) ++
      optionMember "name" (name.map .string)))]
  | .expression text => .object [("expression", .string text)]

/-- The value form of a link. -/
def ExternalReference.toJson (reference : ExternalReference) : Json :=
  .object [("type", .string reference.type), ("url", .string reference.url)]

/-- The members of a component apart from the nested components. -/
def ComponentDetails.members (details : ComponentDetails) : List (String × Json) :=
  ("type", .string details.writtenType.name) ::
    (textMember "bom-ref" details.ref ++
      optionMember "supplier" (details.supplier.map Organization.toJson) ++
      ("name", .string details.name) ::
      (textMember "version" details.version ++
        textMember "description" details.description ++
        listMember "hashes" (details.hashes.map Hash.toJson) ++
        listMember "licenses" (details.licenses.map LicenseChoice.toJson) ++
        textMember "copyright" details.copyright ++
        textMember "cpe" details.cpe ++
        textMember "purl" details.packageUrl ++
        listMember "externalReferences"
          (details.externalReferences.map ExternalReference.toJson)))

mutual

/-- The value form of a component. -/
def componentValue : Component → Json
  | .node details children =>
    .object (details.members ++ listMember "components" (componentValues children))

/-- The value forms of several components. -/
def componentValues : List Component → List Json
  | [] => []
  | component :: rest => componentValue component :: componentValues rest

end

/-- The value form of a stage of life. -/
def Lifecycle.toJson : Lifecycle → Json
  | .phase value => .object [("phase", .string value.name)]
  | .named name description =>
    .object (("name", .string name) :: textMember "description" description)

/-- The value form of a tool. -/
def Tool.toJson (tool : Tool) : Json :=
  .object (textMember "vendor" tool.vendor ++ textMember "name" tool.name ++
    textMember "version" tool.version)

/-- The value form of metadata. -/
def Metadata.toJson (metadata : Metadata) : Json :=
  .object (optionMember "timestamp" (metadata.timestamp.map fun instant => .string instant.text) ++
    listMember "lifecycles" (metadata.lifecycles.map Lifecycle.toJson) ++
    listMember "tools" (metadata.tools.map Tool.toJson) ++
    listMember "authors" (metadata.authors.map Contact.toJson) ++
    optionMember "component" (metadata.component.map componentValue))

/-- The value form of a dependency record. -/
def Dependency.toJson (record : Dependency) : Json :=
  .object [("ref", .string record.ref), ("dependsOn", .strings record.dependsOn)]

/-- The members of a document. -/
def Bom.members (bom : Bom) : List (String × Json) :=
  textMember "serialNumber" bom.serialNumber ++ [
    ("version", .nat bom.version),
    ("metadata", bom.metadata.toJson),
    ("components", .array (componentValues bom.components)),
    ("dependencies", .array (bom.dependencies.map Dependency.toJson))]

/-- The value form of a document. -/
def Bom.toJson (bom : Bom) : Json :=
  .object bom.members

end Sbom.CycloneDx
