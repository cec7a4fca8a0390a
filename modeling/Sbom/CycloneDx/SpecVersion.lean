import Sbom.Failure
import Sbom.Text.LowerCase
import Sbom.Text.Blank

/-!
# Versions and encodings

The versions of the CycloneDX specification that can be written, and the two encodings. Both are
given as text: white space around them does not count, a version may have a leading `v`, and the
case of an encoding does not matter.
-/

namespace Sbom.CycloneDx

/-- A version of the specification. -/
inductive SpecVersion where
  /-- Version 1.2. -/
  | v1_2
  /-- Version 1.3. -/
  | v1_3
  /-- Version 1.4. -/
  | v1_4
  /-- Version 1.5. -/
  | v1_5
  /-- Version 1.6. -/
  | v1_6
deriving DecidableEq, Repr

namespace SpecVersion

/-- The written name of a version. -/
def name : SpecVersion → String
  | .v1_2 => "1.2"
  | .v1_3 => "1.3"
  | .v1_4 => "1.4"
  | .v1_5 => "1.5"
  | .v1_6 => "1.6"

/-- All versions, the oldest first. -/
def all : List SpecVersion := [.v1_2, .v1_3, .v1_4, .v1_5, .v1_6]

/-- The names of all versions, as a message lists them. -/
def supportedText : String :=
  ", ".intercalate (all.map name)

/-- The text after one leading `v` of either case, if there is one. -/
def dropMark : List Char → List Char
  | 'v' :: rest => rest
  | 'V' :: rest => rest
  | text => text

/-- The version that a text names. -/
def parse (text : String) : Except EncodingCause SpecVersion :=
  let bare := String.ofList (dropMark (Text.trimmed text.toList))
  match all.find? fun version => version.name == bare with
  | some version => .ok version
  | none => .error (.unsupportedVersion text supportedText)

/-- The XML namespace of a version. -/
def xmlNamespace (version : SpecVersion) : String :=
  "http://cyclonedx.org/schema/bom/" ++ version.name

/-- Whether a version has lifecycles and the component types that came with them. -/
def supportsLifecycles : SpecVersion → Bool
  | .v1_5 | .v1_6 => true
  | _ => false

end SpecVersion

/-- An encoding of a document. -/
inductive Encoding where
  /-- JSON. -/
  | json
  /-- XML. -/
  | xml
deriving DecidableEq, Repr

namespace Encoding

/-- The written name of an encoding. -/
def name : Encoding → String
  | .json => "json"
  | .xml => "xml"

/-- All encodings. -/
def all : List Encoding := [.json, .xml]

/-- The names of all encodings, as a message lists them. -/
def supportedText : String :=
  ", ".intercalate (all.map name)

/-- The encoding that a text names. -/
def parse (text : String) : Except EncodingCause Encoding :=
  let small := Text.lowercase (Text.trim text)
  match all.find? fun encoding => encoding.name == small with
  | some encoding => .ok encoding
  | none => .error (.unsupportedEncoding text supportedText)

end Encoding

end Sbom.CycloneDx
