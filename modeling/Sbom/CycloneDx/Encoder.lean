import Sbom.CycloneDx.Defect
import Sbom.CycloneDx.Downgrade
import Sbom.CycloneDx.XmlForm

/-!
# Encoding a document

Encoding checks the version, the encoding and the document, and only then writes: the body in
pieces, and a line break at the end. An output may be bounded; it refuses a piece that would take it
beyond its bound, and the encoding fails there.
-/

namespace Sbom.CycloneDx

/-- An output that text is written to. -/
structure Sink where
  /-- The number of bytes it takes, if it is bounded. -/
  bound : Option Nat := none
  /-- What it says when it refuses a piece. -/
  refusal : String := ""
  /-- The number of bytes it took so far. -/
  size : Nat := 0
  /-- The pieces it took so far, the latest first. -/
  taken : List (List Char) := []

namespace Sink

/-- The number of bytes of a text. -/
def byteCount (text : List Char) : Nat :=
  (text.map Char.utf8Size).foldr (· + ·) 0

/-- The text an output took. -/
def text (sink : Sink) : List Char :=
  sink.taken.reverse.flatten

/-- Writes a piece. The second result says whether the output took it. -/
def write (sink : Sink) (piece : List Char) : Sink × Bool :=
  let size := sink.size + byteCount piece
  if sink.bound.all fun bound => size ≤ bound then
    ({ sink with size := size, taken := piece :: sink.taken }, true)
  else (sink, false)

/-- Writes pieces up to the first refused one. The second result says whether the output took all
of them. -/
def writeAll (sink : Sink) : List (List Char) → Sink × Bool
  | [] => (sink, true)
  | piece :: rest =>
    match sink.write piece with
    | (sink, true) => sink.writeAll rest
    | (sink, false) => (sink, false)

end Sink

/-- The version and encoding that two texts name. -/
def resolveTarget (version encoding : String) : Except Failure (SpecVersion × Encoding) :=
  match SpecVersion.parse version with
  | .error cause => .error (.encoding "parsing CycloneDX version" cause)
  | .ok version =>
    match Encoding.parse encoding with
    | .error cause => .error (.encoding "parsing CycloneDX encoding" cause)
    | .ok encoding => .ok (version, encoding)

/-- The defect that keeps a document from being written in an encoding. -/
def Bom.defect? (bom : Bom) (encoding : Encoding) : Option Defect :=
  match bom.structuralDefect? with
  | some defect => some defect
  | none => if encoding = .xml then bom.characterDefect? else none

/-- The JSON value of a document written for a version: the markers of format and version, and the
members of the document. -/
def Bom.envelope (bom : Bom) (version : SpecVersion) : Json :=
  .object (("bomFormat", .string "CycloneDX") :: ("specVersion", .string version.name) ::
    bom.members)

/-- The pieces of the body of a document. -/
def Bom.bodyPieces (bom : Bom) (version : SpecVersion) : Encoding → List (List Char)
  | .json => (bom.envelope version).prettyPieces 0
  | .xml => Xml.documentPieces (bom.element version)

/-- The cause of a failure to write the body. -/
def Encoding.refused (reason : String) : Encoding → EncodingCause
  | .json => .json reason
  | .xml => .xml reason

/-- Writes the body of a document and a line break. -/
def Bom.write (bom : Bom) (version : SpecVersion) (encoding : Encoding) (sink : Sink) :
    Sink × Except EncodingCause Unit :=
  match sink.writeAll (bom.bodyPieces version encoding) with
  | (sink, false) => (sink, .error (encoding.refused sink.refusal))
  | (sink, true) =>
    match sink.write ['\n'] with
    | (sink, false) => (sink, .error (.output sink.refusal))
    | (sink, true) => (sink, .ok ())

/-- Encodes a document: checks everything first, then writes. -/
def Bom.encode (bom : Bom) (version encoding : String) (sink : Sink) :
    Sink × Except Failure Unit :=
  match resolveTarget version encoding with
  | .error failure => (sink, .error failure)
  | .ok (version, encoding) =>
    match bom.defect? encoding with
    | some defect => (sink, .error (.encoding "validating document" defect.cause))
    | none =>
      let (sink, result) := (bom.downgrade version).write version encoding sink
      (sink, result.mapError (Failure.encoding
        ("writing CycloneDX " ++ version.name ++ " " ++ encoding.name)))

end Sbom.CycloneDx
