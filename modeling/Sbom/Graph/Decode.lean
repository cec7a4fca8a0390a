import Sbom.Calendar.Reader
import Sbom.Graph.Document
import Sbom.Json.Decode

/-!
# Reading graph documents

The decoders of the graph model. Every field may be left out except the source and the kind of an
edge; the order of digests and identifiers is kept, and a repeated key keeps its first place and
takes its last value. Unknown relationship kinds and document classifications are accepted.
-/

namespace Sbom.Graph

open Json

/-- Decodes the kind of a node. -/
def decodeNodeKind : Decoder NodeKind :=
  decodeVariant (decodeName (NodeKind.all.map NodeKind.name) NodeKind.ofName?)

/-- Decodes the kind of a relationship. -/
def decodeRelationshipKind : Decoder RelationshipKind :=
  decodeVariant fun name => .ok (RelationshipKind.ofName name)

/-- Decodes the classification of a document. -/
def decodeDocumentKind : Decoder DocumentKind :=
  decodeVariant fun name => .ok (DocumentKind.ofName name)

/-- Decodes the digests of a node. -/
def decodeHashes : Decoder (OrderedMap HashAlgorithm String) :=
  decodeMap (decodeName (HashAlgorithm.all.map HashAlgorithm.name) HashAlgorithm.ofName?)
    decodeString .empty OrderedMap.insert

/-- Decodes the software identifiers of a node. -/
def decodeIdentifiers : Decoder (OrderedMap IdentifierKind String) :=
  decodeMap (decodeName (IdentifierKind.all.map IdentifierKind.name) IdentifierKind.ofName?)
    decodeString .empty OrderedMap.insert

/-- Decodes a point in time. -/
def decodeInstant : Decoder Calendar.Instant := fun _ draft => do
  let text ← decodeStringAs "an RFC 3339 formatted date and time string" draft
  match Calendar.Instant.parse text with
  | .ok instant => return instant
  | .error fault => .error (.rejected fault.message)

/-- Decodes a link. -/
def decodeExternalReference : Decoder ExternalReference :=
  decodeRecord "ExternalReference" [
    .optional "type" decodeString fun reference kind => { reference with kind },
    .optional "url" decodeString fun reference url => { reference with url }] ⟨"", ""⟩

/-- The fields of a person, given the decoder of its contacts. -/
def personFields (decodeContact : Decoder Person) : List (RecordField Person) := [
  .optional "name" decodeString fun person name =>
    person.withValue { person.value with name },
  .optional "isOrg" decodeBool fun person isOrganization =>
    person.withValue { person.value with isOrganization },
  .optional "email" decodeString fun person email =>
    person.withValue { person.value with email },
  .optional "url" decodeString fun person url =>
    person.withValue { person.value with url },
  .optional "phone" decodeString fun person phone =>
    person.withValue { person.value with phone },
  .optional "contacts" (decodeList decodeContact) fun person contacts =>
    .node person.value contacts]

/-- Decodes a person whose contacts nest at most `depth` deep. -/
def decodePersonTo : Nat → Decoder Person
  | 0 => fun _ draft => .error (mismatch "struct Person" draft)
  | depth + 1 => decodeRecord "Person" (personFields (decodePersonTo depth)) (.leaf {})

/-- Decodes a person. Contacts nest no deeper than records may. -/
def decodePerson : Decoder Person :=
  decodePersonTo nestingLimit

/-- Decodes a tool. -/
def decodeTool : Decoder Tool :=
  decodeRecord "Tool" [
    .optional "name" decodeString fun tool name => { tool with name },
    .optional "version" decodeString fun tool version => { tool with version },
    .optional "vendor" decodeString fun tool vendor => { tool with vendor }] {}

/-- Decodes a classification. -/
def decodeDocumentType : Decoder DocumentType :=
  decodeRecord "DocumentType" [
    .optional "type" (decodeOption decodeDocumentKind) fun entry kind => { entry with kind },
    .optional "name" (decodeOption decodeString) fun entry name => { entry with name },
    .optional "description" (decodeOption decodeString) fun entry description =>
      { entry with description }] {}

/-- Decodes a node. -/
def decodeNode : Decoder Node :=
  decodeRecord "Node" [
    .optional "id" decodeString fun node id => { node with id },
    .optional "type" decodeNodeKind fun node kind => { node with kind },
    .optional "name" decodeString fun node name => { node with name },
    .optional "version" decodeString fun node version => { node with version },
    .optional "description" decodeString fun node description => { node with description },
    .optional "primaryPurpose" decodeString fun node primaryPurpose =>
      { node with primaryPurpose },
    .optional "licenses" (decodeList decodeString) fun node licenses => { node with licenses },
    .optional "hashes" decodeHashes fun node hashes => { node with hashes },
    .optional "externalReferences" (decodeList decodeExternalReference)
      fun node externalReferences => { node with externalReferences },
    .optional "identifiers" decodeIdentifiers fun node identifiers => { node with identifiers },
    .optional "suppliers" (decodeList decodePerson) fun node suppliers => { node with suppliers },
    .optional "copyright" decodeString fun node copyright => { node with copyright }] {}

/-- Decodes an edge. -/
def decodeEdge : Decoder Edge :=
  decodeRecord "Edge" [
    .needed "from" decodeString fun edge source => { edge with source },
    .needed "type" decodeRelationshipKind fun edge kind => { edge with kind },
    .optional "to" (decodeList decodeString) fun edge targets => { edge with targets }]
    ⟨"", .other, []⟩

/-- Decodes a node list. -/
def decodeNodeList : Decoder NodeList :=
  decodeRecord "NodeList" [
    .optional "nodes" (decodeList decodeNode) fun list nodes => { list with nodes },
    .optional "edges" (decodeList decodeEdge) fun list edges => { list with edges },
    .optional "rootElements" (decodeList decodeString) fun list rootElements =>
      { list with rootElements }] {}

/-- Decodes the metadata of a document. -/
def decodeMetadata : Decoder Metadata :=
  decodeRecord "Metadata" [
    .optional "id" decodeString fun metadata id => { metadata with id },
    .optional "version" decodeString fun metadata version => { metadata with version },
    .optional "name" decodeString fun metadata name => { metadata with name },
    .optional "date" (decodeOption decodeInstant) fun metadata date => { metadata with date },
    .optional "authors" (decodeList decodePerson) fun metadata authors =>
      { metadata with authors },
    .optional "tools" (decodeList decodeTool) fun metadata tools => { metadata with tools },
    .optional "documentTypes" (decodeList decodeDocumentType) fun metadata documentTypes =>
      { metadata with documentTypes }] {}

/-- Decodes a document. -/
def decodeDocument : Decoder Document :=
  decodeRecord "Document" [
    .optional "metadata" decodeMetadata fun document metadata => { document with metadata },
    .optional "nodeList" decodeNodeList fun document nodeList => { document with nodeList }] {}

/-- Reads a document from its JSON text. -/
def Document.parse (text : String) : Except DecodeFault Document :=
  decodeText decodeDocument text

end Sbom.Graph
