import Sbom.Graph.Document
import Sbom.Json.Value

/-!
# Writing graph documents

The value form of the graph model. Every field is written, in the order of its declaration, also
when it is empty; what is not given is null.
-/

namespace Sbom.Graph

/-- The value form of something that may be missing. -/
def optionValue (text? : Option String) : Json :=
  match text? with
  | some text => .string text
  | none => .null

/-- The value form of a link. -/
def ExternalReference.toJson (reference : ExternalReference) : Json :=
  .object [("type", .string reference.kind), ("url", .string reference.url)]

mutual

/-- The value form of a person. -/
def personValue : Person → Json
  | .node details contacts =>
    .object [
      ("name", .string details.name),
      ("isOrg", .bool details.isOrganization),
      ("email", .string details.email),
      ("url", .string details.url),
      ("phone", .string details.phone),
      ("contacts", .array (personValues contacts))]

/-- The value forms of several persons. -/
def personValues : List Person → List Json
  | [] => []
  | person :: rest => personValue person :: personValues rest

end

/-- The value form of a map with string values. -/
def entriesValue {κ : Type} (name : κ → String) (map : OrderedMap κ String) : Json :=
  .object (map.entries.map fun (key, value) => (name key, .string value))

/-- The value form of a node. -/
def Node.toJson (node : Node) : Json :=
  .object [
    ("id", .string node.id),
    ("type", .string node.kind.name),
    ("name", .string node.name),
    ("version", .string node.version),
    ("description", .string node.description),
    ("primaryPurpose", .string node.primaryPurpose),
    ("licenses", .strings node.licenses),
    ("hashes", entriesValue HashAlgorithm.name node.hashes),
    ("externalReferences", .array (node.externalReferences.map ExternalReference.toJson)),
    ("identifiers", entriesValue IdentifierKind.name node.identifiers),
    ("suppliers", .array (personValues node.suppliers)),
    ("copyright", .string node.copyright)]

/-- The value form of an edge. -/
def Edge.toJson (edge : Edge) : Json :=
  .object [
    ("from", .string edge.source),
    ("type", .string edge.kind.name),
    ("to", .strings edge.targets)]

/-- The value form of a node list. -/
def NodeList.toJson (list : NodeList) : Json :=
  .object [
    ("nodes", .array (list.nodes.map Node.toJson)),
    ("edges", .array (list.edges.map Edge.toJson)),
    ("rootElements", .strings list.rootElements)]

/-- The value form of a tool. -/
def Tool.toJson (tool : Tool) : Json :=
  .object [
    ("name", .string tool.name), ("version", .string tool.version), ("vendor", .string tool.vendor)]

/-- The value form of a classification. -/
def DocumentType.toJson (entry : DocumentType) : Json :=
  .object [
    ("type", optionValue (entry.kind.map DocumentKind.name)),
    ("name", optionValue entry.name),
    ("description", optionValue entry.description)]

/-- The value form of the metadata of a document. -/
def Metadata.toJson (metadata : Metadata) : Json :=
  .object [
    ("id", .string metadata.id),
    ("version", .string metadata.version),
    ("name", .string metadata.name),
    ("date", optionValue (metadata.date.map Calendar.Instant.text)),
    ("authors", .array (personValues metadata.authors)),
    ("tools", .array (metadata.tools.map Tool.toJson)),
    ("documentTypes", .array (metadata.documentTypes.map DocumentType.toJson))]

/-- The value form of a document. -/
def Document.toJson (document : Document) : Json :=
  .object [
    ("metadata", document.metadata.toJson),
    ("nodeList", document.nodeList.toJson)]

/-- The compact JSON text of a document. -/
def Document.text (document : Document) : String :=
  document.toJson.compactText

end Sbom.Graph
