import Sbom.Text.Decimal

/-!
# Failures

Everything that stops a conversion or an encoding, as its cause. A failure carries a context that
callers extend from the inside out, so that the message reads from the whole operation to the part
that failed. A conversion that lost information in strict mode takes no context.
-/

namespace Sbom

/-- Why a document could not be encoded. -/
inductive EncodingCause where
  /-- The version is none of the supported ones. -/
  | unsupportedVersion (version supported : String)
  /-- The encoding is none of the supported ones. -/
  | unsupportedEncoding (encoding supported : String)
  /-- The document must not be written as it is. -/
  | invalidDocument (reason : String)
  /-- The JSON text could not be written. -/
  | json (reason : String)
  /-- The XML text could not be written. -/
  | xml (reason : String)
  /-- The output could not be written to. -/
  | output (reason : String)
deriving DecidableEq, Repr

/-- The wording of a cause. -/
def EncodingCause.message : EncodingCause → String
  | .unsupportedVersion version supported =>
    "Unsupported CycloneDX version: " ++ version ++ " (supported: " ++ supported ++ ")"
  | .unsupportedEncoding encoding supported =>
    "Unsupported encoding: " ++ encoding ++ " (supported: " ++ supported ++ ")"
  | .invalidDocument reason => "Invalid document: " ++ reason
  | .json reason => "JSON serialization failed: " ++ reason
  | .xml reason => "XML serialization failed: " ++ reason
  | .output reason => "IO error: " ++ reason

/-- Why an operation failed. -/
inductive Failure where
  /-- An edge names a node that is not registered. -/
  | lookup (context id : String)
  /-- A value has no counterpart in the target format. -/
  | unsupportedValue (context value : String)
  /-- A document could not be encoded. -/
  | encoding (context : String) (cause : EncodingCause)
  /-- The conversion was stopped from outside. -/
  | interrupted (context : String)
  /-- The conversion lost information in strict mode: how often, and the first loss. -/
  | degraded (count : Nat) (first : String)
  /-- The configuration is invalid. -/
  | configuration (message : String)
deriving DecidableEq, Repr

namespace Failure

/-- The wording of a failure. -/
def message : Failure → String
  | .lookup context id => "Node lookup failed: " ++ context ++ ": unknown node '" ++ id ++ "'"
  | .unsupportedValue context value => "Unsupported value: " ++ context ++ ": " ++ value
  | .encoding context _ => "Encoding failed: " ++ context
  | .interrupted context => "Conversion interrupted: " ++ context
  | .degraded count first =>
    "Conversion degraded in strict mode (" ++ Text.decimalText count ++ " entries), first: " ++
      first
  | .configuration message => "Invalid configuration: " ++ message

/-- A context before another one; an empty inner context is dropped. -/
def chain (outer inner : String) : String :=
  if inner.isEmpty then outer else outer ++ ": " ++ inner

/-- The failure seen from a wider context. -/
def within (failure : Failure) (outer : String) : Failure :=
  match failure with
  | .lookup context id => .lookup (chain outer context) id
  | .unsupportedValue context value => .unsupportedValue (chain outer context) value
  | .encoding context cause => .encoding (chain outer context) cause
  | .interrupted context => .interrupted (chain outer context)
  | .configuration message => .configuration (chain outer message)
  | .degraded count first => .degraded count first

/-- Whether encoding failed, and not the conversion. -/
def isEncoding : Failure → Bool
  | .encoding _ _ => true
  | _ => false

/-- The failure of an output that could not be written to, outside any encoder. -/
def ofOutput (reason : String) : Failure :=
  .encoding "writing output" (.output reason)

end Failure

/-- Adds a context to the failure of a result. -/
def inContext {α : Type} (outer : String) (result : Except Failure α) : Except Failure α :=
  result.mapError fun failure => failure.within outer

/-- Adds a context that is worked out for a failure only. -/
def inContextOf {α : Type} (outer : Unit → String) (result : Except Failure α) : Except Failure α :=
  result.mapError fun failure => failure.within (outer ())

end Sbom
