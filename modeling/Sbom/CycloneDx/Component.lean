import Sbom.Tree

/-!
# Components

A component is a node of the output tree: what CycloneDX says about one package, file or other part,
with the components nested in it. Nested components are owned by value: a component that is attached
somewhere is a copy.
-/

namespace Sbom.CycloneDx

/-- The type of a component. -/
inductive ComponentType where
  /-- An application. -/
  | application
  /-- A container image. -/
  | container
  /-- Data. -/
  | data
  /-- A hardware device. -/
  | device
  /-- A driver of a device. -/
  | deviceDriver
  /-- A single file. -/
  | file
  /-- Firmware. -/
  | firmware
  /-- A framework. -/
  | framework
  /-- A library. -/
  | library
  /-- A machine learning model. -/
  | machineLearningModel
  /-- An operating system. -/
  | operatingSystem
  /-- A platform. -/
  | platform
deriving DecidableEq, Repr

namespace ComponentType

/-- The written name of a type. -/
def name : ComponentType → String
  | .application => "application"
  | .container => "container"
  | .data => "data"
  | .device => "device"
  | .deviceDriver => "device-driver"
  | .file => "file"
  | .firmware => "firmware"
  | .framework => "framework"
  | .library => "library"
  | .machineLearningModel => "machine-learning-model"
  | .operatingSystem => "operating-system"
  | .platform => "platform"

/-- All types. -/
def all : List ComponentType := [
  .application, .container, .data, .device, .deviceDriver, .file, .firmware, .framework, .library,
  .machineLearningModel, .operatingSystem, .platform]

/-- The type with a written name. -/
def ofName? (name : String) : Option ComponentType :=
  all.find? fun type => type.name == name

/-- Every component is written with a type; this one stands for an unknown type. -/
def fallback : ComponentType := .library

end ComponentType

/-- A digest algorithm that CycloneDX knows. -/
inductive HashAlgorithm where
  /-- MD5. -/
  | md5
  /-- SHA-1. -/
  | sha1
  /-- SHA-256. -/
  | sha256
  /-- SHA-384. -/
  | sha384
  /-- SHA-512. -/
  | sha512
  /-- SHA3-256. -/
  | sha3_256
  /-- SHA3-384. -/
  | sha3_384
  /-- SHA3-512. -/
  | sha3_512
  /-- BLAKE2b with 256 bits. -/
  | blake2b_256
  /-- BLAKE2b with 384 bits. -/
  | blake2b_384
  /-- BLAKE2b with 512 bits. -/
  | blake2b_512
  /-- BLAKE3. -/
  | blake3
deriving DecidableEq, Repr

namespace HashAlgorithm

/-- The written name of an algorithm. -/
def name : HashAlgorithm → String
  | .md5 => "MD5"
  | .sha1 => "SHA-1"
  | .sha256 => "SHA-256"
  | .sha384 => "SHA-384"
  | .sha512 => "SHA-512"
  | .sha3_256 => "SHA3-256"
  | .sha3_384 => "SHA3-384"
  | .sha3_512 => "SHA3-512"
  | .blake2b_256 => "BLAKE2b-256"
  | .blake2b_384 => "BLAKE2b-384"
  | .blake2b_512 => "BLAKE2b-512"
  | .blake3 => "BLAKE3"

/-- All algorithms. -/
def all : List HashAlgorithm := [
  .md5, .sha1, .sha256, .sha384, .sha512, .sha3_256, .sha3_384, .sha3_512, .blake2b_256,
  .blake2b_384, .blake2b_512, .blake3]

/-- The algorithm with a written name. -/
def ofName? (name : String) : Option HashAlgorithm :=
  all.find? fun algorithm => algorithm.name == name

end HashAlgorithm

/-- A digest of a component. -/
structure Hash where
  /-- The algorithm. -/
  algorithm : HashAlgorithm
  /-- The digest. -/
  content : String
deriving DecidableEq, Repr

/-- A licence of a component. -/
inductive LicenseChoice where
  /-- A single licence, by identifier or by name. -/
  | license (id name : Option String)
  /-- A licence expression. -/
  | expression (text : String)
deriving DecidableEq, Repr

/-- A link from a component to something outside the document. -/
structure ExternalReference where
  /-- The type of the link. -/
  type : String
  /-- The target of the link. -/
  url : String
deriving DecidableEq, Repr

/-- How to reach somebody. -/
structure Contact where
  /-- The name. -/
  name : String := ""
  /-- The email address. -/
  email : String := ""
  /-- The phone number. -/
  phone : String := ""
deriving DecidableEq, Repr

/-- An organization with its contacts. -/
structure Organization where
  /-- The name. -/
  name : String := ""
  /-- The web addresses. -/
  urls : List String := []
  /-- The contacts. -/
  contacts : List Contact := []
deriving DecidableEq, Repr

/-- What is known of a component apart from the components nested in it. -/
structure ComponentDetails where
  /-- The type; unset when it is not known. -/
  type : Option ComponentType := none
  /-- The reference, unique in its document; empty when there is none. -/
  ref : String := ""
  /-- The supplier. -/
  supplier : Option Organization := none
  /-- The name. -/
  name : String := ""
  /-- The version. -/
  version : String := ""
  /-- The description. -/
  description : String := ""
  /-- The digests. -/
  hashes : List Hash := []
  /-- The licences. -/
  licenses : List LicenseChoice := []
  /-- The copyright notice. -/
  copyright : String := ""
  /-- The CPE name. -/
  cpe : String := ""
  /-- The package URL. -/
  packageUrl : String := ""
  /-- The links to things outside the document. -/
  externalReferences : List ExternalReference := []
deriving DecidableEq, Repr, Inhabited

/-- The type a component is written with. -/
def ComponentDetails.writtenType (details : ComponentDetails) : ComponentType :=
  details.type.getD .fallback

/-- A component with the components nested in it. -/
abbrev Component := Tree ComponentDetails

namespace Component

/-- A component of which only reference and name are known. -/
def bare (ref name : String) : Component :=
  .leaf { ref, name }

/-- The reference of a component. -/
def ref (component : Component) : String :=
  component.value.ref

/-- The component with another name. -/
def rename (component : Component) (name : String) : Component :=
  component.withValue { component.value with name }

/-- The first component in pre-order with a reference. -/
def findRef? (component : Component) (ref : String) : Option Component :=
  component.find? fun details => details.ref == ref

end Component

end Sbom.CycloneDx
