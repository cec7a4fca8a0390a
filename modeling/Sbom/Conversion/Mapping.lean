import Sbom.Conversion.Degradation
import Sbom.CycloneDx.Component
import Sbom.Graph.Node
import Sbom.License.Expression
import Sbom.PackageUrl
import Sbom.Text.LowerCase

/-!
# From nodes to components

A node with an id becomes one component without children. Every vocabulary has its table; a value
outside the table is reported, in the order type, digests, links, identifiers, suppliers. Licences
are kept as they are and only classified.
-/

namespace Sbom.Conversion

open Sbom.Graph (Node Person)
open CycloneDx (Component ComponentType Contact LicenseChoice Organization)

/-- The link types of CycloneDX. -/
def externalReferenceTypes : List String := [
  "vcs", "issue-tracker", "website", "advisories", "bom", "mailing-list", "social", "chat",
  "documentation", "support", "source-distribution", "distribution", "distribution-intake",
  "license", "build-meta", "build-system", "release-notes", "security-contact", "model-card", "log",
  "configuration", "evidence", "formulation", "attestation", "threat-model", "adversary-model",
  "risk-assessment", "vulnerability-assertion", "exploitability-statement", "pentest-report",
  "static-analysis-report", "dynamic-analysis-report", "runtime-analysis-report",
  "component-analysis-report", "maturity-report", "certification-report",
  "codified-infrastructure", "quality-metrics", "poam", "electronic-signature",
  "digital-signature", "rfc-9116", "other"]

/-- The component type that a purpose names, in any case. -/
def purposeType? (purpose : String) : Option ComponentType :=
  ComponentType.ofName? (Text.lowercase purpose)

/-- The type of the component of a node. -/
def nodeType? (node : Node) : Option ComponentType :=
  if node.kind = .file then some .file
  else if node.primaryPurpose.isEmpty then none
  else purposeType? node.primaryPurpose

/-- Reports a purpose without a component type. -/
def typeReport (node : Node) : Report :=
  if node.kind = .file ∨ node.primaryPurpose.isEmpty ∨ (purposeType? node.primaryPurpose).isSome then
    []
  else [.atNode .unrecognizedPurpose node.id
    ("primary purpose '" ++ node.primaryPurpose ++ "' has no component type")]

/-- The algorithm as CycloneDX names it. -/
def hashAlgorithm? : Graph.HashAlgorithm → Option CycloneDx.HashAlgorithm
  | .md5 => some .md5
  | .sha1 => some .sha1
  | .sha256 => some .sha256
  | .sha384 => some .sha384
  | .sha512 => some .sha512
  | .sha3_256 => some .sha3_256
  | .sha3_384 => some .sha3_384
  | .sha3_512 => some .sha3_512
  | .blake2b_256 => some .blake2b_256
  | .blake2b_384 => some .blake2b_384
  | .blake2b_512 => some .blake2b_512
  | .blake3 => some .blake3
  | .unknown | .md2 | .adler32 | .md4 | .md6 | .sha224 => none

/-- The digests whose algorithm CycloneDX knows. -/
def mappedHashes (node : Node) : List CycloneDx.Hash :=
  node.hashes.entries.filterMap fun (algorithm, content) =>
    (hashAlgorithm? algorithm).map fun mapped => ⟨mapped, content⟩

/-- Reports the digests whose algorithm CycloneDX does not know. -/
def hashReport (node : Node) : Report :=
  node.hashes.entries.filterMap fun (algorithm, _) =>
    match hashAlgorithm? algorithm with
    | some _ => none
    | none => some (.atNode .unmappedHashAlgorithm node.id
      ("hash algorithm " ++ algorithm.name ++ " is not supported by CycloneDX"))

/-- The licence as CycloneDX carries it: a listed identifier as such, a text of several words that is
an expression as such, both without surrounding white space; anything else as a name, unchanged. -/
def licenseChoice (license : String) : LicenseChoice :=
  let text := Text.trimmed license.toList
  match License.licenseId? text with
  | some id => .license (some id) none
  | none =>
    if 2 ≤ Text.wordCount text ∧ License.isExpression text then .expression (String.ofList text)
    else .license none (some license)

/-- The links of a node. -/
def mappedReferences (node : Node) : List CycloneDx.ExternalReference :=
  node.externalReferences.map fun reference => ⟨reference.kind, reference.url⟩

/-- Reports the links whose type is outside the vocabulary. -/
def referenceReport (node : Node) : Report :=
  node.externalReferences.filterMap fun reference =>
    if externalReferenceTypes.contains reference.kind then none
    else some (.atNode .nonStandardExternalReference node.id
      ("external reference type '" ++ reference.kind ++ "' is not in the CycloneDX vocabulary"))

/-- The CPE name of a node; version 2.3 comes before version 2.2. -/
def mappedCpe (node : Node) : String :=
  match node.identifiers.get? .cpe23, node.identifiers.get? .cpe22 with
  | some newer, _ => newer
  | none, some older => older
  | none, none => ""

/-- The package URL of a node, also if it is none. -/
def mappedPackageUrl (node : Node) : String :=
  (node.identifiers.get? .packageUrl).getD ""

/-- Reports the identifiers that are malformed or have no field, and then a hidden CPE name. -/
def identifierReport (node : Node) : Report :=
  (node.identifiers.entries.filterMap fun (kind, value) =>
    match kind with
    | .packageUrl =>
      if PackageUrl.isPackageUrl value then none
      else some (.atNode .malformedPackageUrl node.id
        ("package URL '" ++ value ++ "' does not parse"))
    | .cpe22 | .cpe23 => none
    | .unknown | .gitObject =>
      some (.atNode .droppedIdentifier node.id
        ("identifier of kind " ++ kind.name ++ " has no CycloneDX field"))) ++
  match node.identifiers.get? .cpe23, node.identifiers.get? .cpe22 with
  | some _, some older =>
    [.atNode .shadowedCpe node.id
      ("only one CPE is supported, CPE 2.2 '" ++ older ++ "' was dropped")]
  | _, _ => []

/-- The contact that a person is. -/
def contact (person : Person) : Contact :=
  ⟨person.value.name, person.value.email, person.value.phone⟩

/-- The organization that a supplier is, with its immediate contacts. -/
def organization (supplier : Person) : Organization :=
  ⟨supplier.value.name,
    if supplier.value.url.isEmpty then [] else [supplier.value.url],
    supplier.children.map contact⟩

/-- Reports the suppliers after the first one. -/
def supplierReport (node : Node) : Report :=
  node.suppliers.tail.map fun extra =>
    .atNode .extraSupplier node.id
      ("component supports a single supplier, '" ++ extra.value.name ++ "' was dropped")

/-- The component that a node becomes. -/
def mappedComponent (node : Node) : Component :=
  .leaf {
    type := nodeType? node
    ref := node.id
    supplier := node.suppliers.head?.map organization
    name := node.name
    version := node.version
    description := node.description
    hashes := mappedHashes node
    licenses := node.licenses.map licenseChoice
    copyright := node.copyright
    cpe := mappedCpe node
    packageUrl := mappedPackageUrl node
    externalReferences := mappedReferences node }

/-- Everything that is lost when a node becomes a component. -/
def mappingReport (node : Node) : Report :=
  typeReport node ++ hashReport node ++ referenceReport node ++ identifierReport node ++
    supplierReport node

/-- The component of a node and what is lost on the way. A node without an id has none: nothing could
refer to it. -/
def mapNode (node : Node) : Option (Component × Report) :=
  if node.id.isEmpty then none else some (mappedComponent node, mappingReport node)

end Sbom.Conversion
