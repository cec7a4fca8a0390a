import Sbom.CycloneDx.Bom
import Sbom.CycloneDx.SpecVersion
import Sbom.Text.Decimal
import Sbom.Xml.Element

/-!
# The XML form of a document

A CycloneDX document as a tree of XML elements, in the order of the schema. Elements for empty text
and for empty lists are left out, except the metadata, the name of a component or stage, the digest
and the target of a link.
-/

namespace Sbom.CycloneDx

open Xml (Element)

/-- An element with text, left out when the text is empty. -/
def textElement (name text : String) : List Element :=
  if text.isEmpty then [] else [.text name [] text]

/-- An element that holds a list of elements, left out when the list is empty. -/
def listElement (name : String) (items : List Element) : List Element :=
  if items.isEmpty then [] else [.parent name [] items]

/-- The element of a contact. -/
def Contact.element (name : String) (contact : Contact) : Element :=
  .parent name [] (textElement "name" contact.name ++ textElement "email" contact.email ++
    textElement "phone" contact.phone)

/-- The element of a supplier. -/
def Organization.element (supplier : Organization) : Element :=
  .parent "supplier" [] (textElement "name" supplier.name ++
    supplier.urls.flatMap (textElement "url") ++
    supplier.contacts.map (Contact.element "contact"))

/-- The element of a digest. -/
def Hash.element (hash : Hash) : Element :=
  .text "hash" [("alg", hash.algorithm.name)] hash.content

/-- The elements of a licence. -/
def LicenseChoice.elements : LicenseChoice → List Element
  | .license id name =>
    [.parent "license" [] (textElement "id" (id.getD "") ++ textElement "name" (name.getD ""))]
  | .expression text => textElement "expression" text

/-- The element of a list of licences. -/
def licensesElement (licenses : List LicenseChoice) : List Element :=
  if licenses.isEmpty then []
  else [.parent "licenses" [] (licenses.flatMap LicenseChoice.elements)]

/-- The element of a link. -/
def ExternalReference.element (reference : ExternalReference) : Element :=
  .parent "reference" [("type", reference.type)] [.text "url" [] reference.url]

/-- The attributes of a component. -/
def ComponentDetails.attributes (details : ComponentDetails) : List Xml.Attribute :=
  ("type", details.writtenType.name) ::
    if details.ref.isEmpty then [] else [("bom-ref", details.ref)]

/-- The elements of a component apart from the nested components. -/
def ComponentDetails.elements (details : ComponentDetails) : List Element :=
  (details.supplier.map Organization.element).toList ++
    .text "name" [] details.name :: (textElement "version" details.version ++
    textElement "description" details.description ++
    listElement "hashes" (details.hashes.map Hash.element) ++
    licensesElement details.licenses ++
    textElement "copyright" details.copyright ++
    textElement "cpe" details.cpe ++
    textElement "purl" details.packageUrl ++
    listElement "externalReferences"
      (details.externalReferences.map ExternalReference.element))

mutual

/-- The element of a component. -/
def componentElement : Component → Element
  | .node details children =>
    .parent "component" details.attributes
      (details.elements ++ listElement "components" (componentElements children))

/-- The elements of several components. -/
def componentElements : List Component → List Element
  | [] => []
  | component :: rest => componentElement component :: componentElements rest

end

/-- The elements inside a stage of life. -/
def Lifecycle.elements : Lifecycle → List Element
  | .phase value => textElement "phase" value.name
  | .named name description =>
    .text "name" [] name :: textElement "description" description

/-- The element of a tool. -/
def Tool.element (tool : Tool) : Element :=
  .parent "tool" [] (textElement "vendor" tool.vendor ++ textElement "name" tool.name ++
    textElement "version" tool.version)

/-- The element of the metadata. Times are written in whole seconds. -/
def Metadata.element (metadata : Metadata) : Element :=
  .parent "metadata" []
    ((metadata.timestamp.map fun instant => Element.text "timestamp" [] instant.secondsText).toList ++
      listElement "lifecycles" (metadata.lifecycles.map fun stage =>
        .parent "lifecycle" [] stage.elements) ++
      listElement "tools" (metadata.tools.map Tool.element) ++
      listElement "authors" (metadata.authors.map (Contact.element "author")) ++
      (metadata.component.map componentElement).toList)

/-- The element of a dependency record. -/
def Dependency.element (record : Dependency) : Element :=
  if record.dependsOn.isEmpty then .empty "dependency" [("ref", record.ref)]
  else .parent "dependency" [("ref", record.ref)]
    (record.dependsOn.map fun target => .empty "dependency" [("ref", target)])

/-- The root element of a document written for a version. -/
def Bom.element (bom : Bom) (version : SpecVersion) : Element :=
  .parent "bom"
    (("xmlns", version.xmlNamespace) ::
      ((if bom.serialNumber.isEmpty then [] else [("serialNumber", bom.serialNumber)]) ++
        [("version", Text.decimalText bom.version)]))
    (bom.metadata.element ::
      (listElement "components" (componentElements bom.components) ++
        listElement "dependencies" (bom.dependencies.map Dependency.element)))

end Sbom.CycloneDx
