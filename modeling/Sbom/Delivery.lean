import Sbom.Conversion.Convert
import Sbom.CycloneDx.Encoder
import Sbom.Settings.Validation

/-!
# Delivering a document

The whole way from a graph document to a written CycloneDX document: the settings are checked, the
document is converted, and the result is encoded into an output. Nothing is written unless the
conversion succeeds.
-/

namespace Sbom

open Conversion (Interrupt Report)
open CycloneDx (Sink)

/-- The name of the format that is written. -/
def formatName : String := "CycloneDX"

/-- Converts a document and writes it to an output. The result is the report of the conversion. -/
def deliver (settings : Settings) (interrupt : Interrupt) (document : Graph.Document)
    (sink : Sink) : Sink × Except Failure Report :=
  match settings.usable with
  | .error failure => (sink, .error failure)
  | .ok settings =>
    match Conversion.convert settings.behavior interrupt document with
    | .error failure => (sink, .error failure)
    | .ok converted =>
      let (sink, written) :=
        converted.bom.encode settings.output.version settings.output.encoding sink
      (sink, written.map fun _ => converted.report)

end Sbom
