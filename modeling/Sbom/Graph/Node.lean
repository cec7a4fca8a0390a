import Sbom.OrderedMap
import Sbom.Tree

/-!
# Nodes of a graph document

A node is one entity of a graph document: a package or a file with its names, digests, identifiers
and suppliers. Persons may have contacts of their own, to any depth.
-/

namespace Sbom.Graph

/-- What a node stands for. -/
inductive NodeKind where
  /-- A package. -/
  | package
  /-- A file. -/
  | file
deriving DecidableEq, Repr

namespace NodeKind

/-- The written name of a kind. -/
def name : NodeKind → String
  | .package => "PACKAGE"
  | .file => "FILE"

/-- All kinds. -/
def all : List NodeKind := [.package, .file]

/-- The kind with a written name. -/
def ofName? (name : String) : Option NodeKind :=
  all.find? fun kind => kind.name == name

end NodeKind

/-- A digest algorithm. -/
inductive HashAlgorithm where
  /-- An algorithm that is not known. -/
  | unknown
  /-- MD5. -/
  | md5
  /-- SHA-1. -/
  | sha1
  /-- SHA-256. -/
  | sha256
  /-- SHA-384. -/
  | sha384
  /-- SHA-512. -/
  | sha512
  /-- SHA3-256. -/
  | sha3_256
  /-- SHA3-384. -/
  | sha3_384
  /-- SHA3-512. -/
  | sha3_512
  /-- BLAKE2b with 256 bits. -/
  | blake2b_256
  /-- BLAKE2b with 384 bits. -/
  | blake2b_384
  /-- BLAKE2b with 512 bits. -/
  | blake2b_512
  /-- BLAKE3. -/
  | blake3
  /-- MD2. -/
  | md2
  /-- Adler-32. -/
  | adler32
  /-- MD4. -/
  | md4
  /-- MD6. -/
  | md6
  /-- SHA-224. -/
  | sha224
deriving DecidableEq, Repr

namespace HashAlgorithm

/-- The written name of an algorithm. -/
def name : HashAlgorithm → String
  | .unknown => "UNKNOWN"
  | .md5 => "MD5"
  | .sha1 => "SHA1"
  | .sha256 => "SHA256"
  | .sha384 => "SHA384"
  | .sha512 => "SHA512"
  | .sha3_256 => "SHA3_256"
  | .sha3_384 => "SHA3_384"
  | .sha3_512 => "SHA3_512"
  | .blake2b_256 => "BLAKE2B_256"
  | .blake2b_384 => "BLAKE2B_384"
  | .blake2b_512 => "BLAKE2B_512"
  | .blake3 => "BLAKE3"
  | .md2 => "MD2"
  | .adler32 => "ADLER32"
  | .md4 => "MD4"
  | .md6 => "MD6"
  | .sha224 => "SHA224"

/-- All algorithms. -/
def all : List HashAlgorithm := [
  .unknown, .md5, .sha1, .sha256, .sha384, .sha512, .sha3_256, .sha3_384, .sha3_512, .blake2b_256,
  .blake2b_384, .blake2b_512, .blake3, .md2, .adler32, .md4, .md6, .sha224]

/-- The algorithm with a written name. -/
def ofName? (name : String) : Option HashAlgorithm :=
  all.find? fun algorithm => algorithm.name == name

end HashAlgorithm

/-- A kind of software identifier. -/
inductive IdentifierKind where
  /-- A kind that is not known. -/
  | unknown
  /-- A package URL. -/
  | packageUrl
  /-- A CPE name of version 2.2. -/
  | cpe22
  /-- A CPE name of version 2.3. -/
  | cpe23
  /-- A git object id. -/
  | gitObject
deriving DecidableEq, Repr

namespace IdentifierKind

/-- The written name of a kind. -/
def name : IdentifierKind → String
  | .unknown => "UNKNOWN"
  | .packageUrl => "PURL"
  | .cpe22 => "CPE22"
  | .cpe23 => "CPE23"
  | .gitObject => "GITOID"

/-- All kinds. -/
def all : List IdentifierKind := [.unknown, .packageUrl, .cpe22, .cpe23, .gitObject]

/-- The kind with a written name. -/
def ofName? (name : String) : Option IdentifierKind :=
  all.find? fun kind => kind.name == name

end IdentifierKind

/-- A link from a node to something outside the document. -/
structure ExternalReference where
  /-- The kind of the link, in free text. -/
  kind : String
  /-- The target of the link. -/
  url : String
deriving DecidableEq, Repr

/-- What is known of a person or organization. -/
structure PersonDetails where
  /-- The name. -/
  name : String := ""
  /-- Whether this is an organization. -/
  isOrganization : Bool := false
  /-- The email address. -/
  email : String := ""
  /-- The web address. -/
  url : String := ""
  /-- The phone number. -/
  phone : String := ""
deriving DecidableEq, Repr, Inhabited

/-- A person or organization with its contacts. -/
abbrev Person := Tree PersonDetails

/-- One entity of a graph document. -/
structure Node where
  /-- The identifier; nodes are expected to have different ones. -/
  id : String := ""
  /-- What the node stands for. -/
  kind : NodeKind := .package
  /-- The name. -/
  name : String := ""
  /-- The version. -/
  version : String := ""
  /-- The description. -/
  description : String := ""
  /-- The purpose, in free text. -/
  primaryPurpose : String := ""
  /-- Licence identifiers or expressions. -/
  licenses : List String := []
  /-- The digests, by algorithm. -/
  hashes : OrderedMap HashAlgorithm String := .empty
  /-- The links to things outside the document. -/
  externalReferences : List ExternalReference := []
  /-- The software identifiers, by kind. -/
  identifiers : OrderedMap IdentifierKind String := .empty
  /-- The suppliers. -/
  suppliers : List Person := []
  /-- The copyright notice. -/
  copyright : String := ""

namespace Node

/-- The node with the digest of an algorithm set. -/
def setHash (node : Node) (algorithm : HashAlgorithm) (digest : String) : Node :=
  { node with hashes := node.hashes.insert algorithm digest }

/-- The node with the identifier of a kind set. -/
def setIdentifier (node : Node) (kind : IdentifierKind) (value : String) : Node :=
  { node with identifiers := node.identifiers.insert kind value }

/-- The node with one more licence. -/
def addLicense (node : Node) (license : String) : Node :=
  { node with licenses := node.licenses ++ [license] }

/-- The node with one more link. -/
def addReference (node : Node) (kind url : String) : Node :=
  { node with externalReferences := node.externalReferences ++ [⟨kind, url⟩] }

/-- The node with one more supplier. -/
def addSupplier (node : Node) (supplier : Person) : Node :=
  { node with suppliers := node.suppliers ++ [supplier] }

end Node

end Sbom.Graph
