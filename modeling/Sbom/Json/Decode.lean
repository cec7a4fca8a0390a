import Sbom.Json.Draft
import Sbom.Json.Magnitude
import Sbom.Text.Quoted

/-!
# Decoding drafts

Decoders turn a draft into a typed value. They look at the draft in the order of its text, so the
first thing that does not fit is the one reported: a place where the text breaks off, a value of the
wrong kind, a repeated or missing field. A record may be written as an object or as an array of its
fields in order. Records and sequences may nest up to a limit. Values that nothing reads may nest
without one, and their strings and keys may name half of a surrogate pair.
-/

namespace Sbom.Json

/-- Why a text does not decode. -/
inductive DecodeFault where
  /-- The text is not JSON, or is nested too deeply. -/
  | malformed
  /-- A value is of the wrong kind. -/
  | wrongKind (found expected : String)
  /-- A name is none of the known ones. -/
  | unknownVariant (name : String) (known : List String)
  /-- A field is given twice. -/
  | duplicateField (name : String)
  /-- A required field is missing. -/
  | missingField (name : String)
  /-- An array is too short for the record it stands for. -/
  | invalidLength (length : Nat) (expected : String)
  /-- A string is not in the form its field asks for. -/
  | rejected (reason : String)
deriving DecidableEq, Repr

/-- The choice between the known names, as a message puts it. -/
def choiceText : List String → String
  | [] => "there are no variants"
  | [only] => Text.backQuoted only
  | [one, other] => Text.backQuoted one ++ " or " ++ Text.backQuoted other
  | many => "one of " ++ ", ".intercalate (many.map Text.backQuoted)

/-- The wording of a fault. -/
def DecodeFault.message : DecodeFault → String
  | .malformed => "malformed JSON"
  | .wrongKind found expected => "invalid type: " ++ found ++ ", expected " ++ expected
  | .unknownVariant name known =>
    "unknown variant " ++ Text.backQuoted name ++ ", expected " ++ choiceText known
  | .duplicateField name => "duplicate field " ++ Text.backQuoted name
  | .missingField name => "missing field " ++ Text.backQuoted name
  | .invalidLength length expected =>
    "invalid length " ++ Text.decimalText length ++ ", expected " ++ expected
  | .rejected reason => reason

/-- Decodes a draft; the first argument is the number of records and sequences that may still be
opened, and one. -/
abbrev Decoder (α : Type) := Nat → Draft → Except DecodeFault α

/-- The number of nested records and sequences at which a text is refused. -/
def nestingLimit : Nat := 128

/-- The fault of a draft that is not of the expected kind. -/
def mismatch (expected : String) : Draft → DecodeFault
  | .null => .wrongKind "null" expected
  | .bool value => .wrongKind ("boolean " ++ Text.backQuoted (String.ofList (boolText value))) expected
  | .number value =>
    match value.magnitude? with
    | some magnitude => .wrongKind magnitude.shown expected
    | none => .malformed
  | .string (some value) =>
    .wrongKind ("string " ++ Text.shownQuoted value) expected
  | .string none => .malformed
  | .array _ _ => .wrongKind "sequence" expected
  | .object _ _ => .wrongKind "map" expected
  | .cut => .malformed

/-- Opens a record or sequence. -/
def enter (remaining : Nat) : Except DecodeFault Nat :=
  if remaining ≤ 1 then .error .malformed else .ok (remaining - 1)

/-- What remains after a record or sequence was read: an error if the text breaks off inside it. -/
def finish {α : Type} (closed : Bool) (value : α) : Except DecodeFault α :=
  if closed then .ok value else .error .malformed

/-- Decodes a string, named `expected` in messages. -/
def decodeStringAs (expected : String) : Draft → Except DecodeFault String
  | .string (some value) => .ok value
  | draft => .error (mismatch expected draft)

/-- Decodes a string. -/
def decodeString : Decoder String := fun _ draft =>
  decodeStringAs "a string" draft

/-- Decodes a truth value. -/
def decodeBool : Decoder Bool := fun _ draft =>
  match draft with
  | .bool value => .ok value
  | draft => .error (mismatch "a boolean" draft)

/-- Decodes a value that may be null. -/
def decodeOption {α : Type} (decode : Decoder α) : Decoder (Option α) := fun remaining draft =>
  match draft with
  | .null => .ok none
  | draft => (decode remaining draft).map some

/-- Decodes the items of a sequence in order. -/
def decodeItems {α : Type} (decode : Draft → Except DecodeFault α) :
    List Draft → Except DecodeFault (List α)
  | [] => .ok []
  | item :: rest => do
    let value ← decode item
    let values ← decodeItems decode rest
    return value :: values

/-- Decodes a sequence. -/
def decodeList {α : Type} (decode : Decoder α) : Decoder (List α) := fun remaining draft =>
  match draft with
  | .array items closed => do
    let remaining ← enter remaining
    let values ← decodeItems (decode remaining) items
    finish closed values
  | draft => .error (mismatch "a sequence" draft)

/-- The value that a name stands for, among the known names. -/
def decodeName {α : Type} (known : List String) (ofName? : String → Option α) (name : String) :
    Except DecodeFault α :=
  match ofName? name with
  | some value => .ok value
  | none => .error (.unknownVariant name known)

/-- Decodes one of several names. A name is written as a string, or as an object whose only member
has that name and holds null. -/
def decodeVariant {α : Type} (decode : String → Except DecodeFault α) : Decoder α :=
  fun remaining draft =>
    match draft with
    | .string (some name) => decode name
    | .object members closed => do
      let _ ← enter remaining
      match members with
      | [] => .error .malformed
      | (key, payload) :: rest =>
        let value ← decode (← decodeStringAs "variant identifier" key)
        match payload with
        | .null => if rest.isEmpty && closed then .ok value else .error .malformed
        | payload => .error (mismatch "unit" payload)
    | _ => .error .malformed

/-- The name that a member of a map or a record has. -/
def nameOf (key : Draft) : Except DecodeFault String :=
  match key.text? with
  | some name => .ok name
  | none => .error .malformed

/-- A map with string values whose keys are names; a later entry of a key wins, at the place of the
first one, as `insert` decides. -/
def decodeEntries {κ α : Type} (decodeKey : String → Except DecodeFault κ)
    (decode : Draft → Except DecodeFault α) {μ : Type} (insert : μ → κ → α → μ) :
    μ → List (Draft × Draft) → Except DecodeFault μ
  | entries, [] => .ok entries
  | entries, (key, draft) :: rest => do
    let key ← decodeKey (← nameOf key)
    let value ← decode draft
    decodeEntries decodeKey decode insert (insert entries key value) rest

/-- Decodes a map, starting from the empty one. -/
def decodeMap {κ α μ : Type} (decodeKey : String → Except DecodeFault κ) (decode : Decoder α)
    (empty : μ) (insert : μ → κ → α → μ) : Decoder μ := fun remaining draft =>
  match draft with
  | .object members closed => do
    let remaining ← enter remaining
    let entries ← decodeEntries decodeKey (decode remaining) insert empty members
    finish closed entries
  | draft => .error (mismatch "a map" draft)

/-- A field of a record: its name, whether it must be given, and how its value is put into the
record. -/
structure RecordField (ρ : Type) where
  /-- The name of the field. -/
  name : String
  /-- Whether the field must be given. -/
  required : Bool
  /-- Decodes the value of the field into the record. -/
  decode : Nat → Draft → ρ → Except DecodeFault ρ

/-- A field that may be left out, from the decoder of its value and its setter. -/
def RecordField.optional {ρ α : Type} (name : String) (decode : Decoder α) (set : ρ → α → ρ) :
    RecordField ρ where
  name := name
  required := false
  decode remaining draft record := (decode remaining draft).map (set record)

/-- A field that must be given. -/
def RecordField.needed {ρ α : Type} (name : String) (decode : Decoder α) (set : ρ → α → ρ) :
    RecordField ρ :=
  { RecordField.optional name decode set with required := true }

/-- Decodes the members of a record in the order of the text. `seen` holds the names of the fields
read so far; members that are no fields are skipped, whatever their values hold. -/
def decodeMembers {ρ : Type} (fields : List (RecordField ρ)) (remaining : Nat) :
    List (Draft × Draft) → List String → ρ → Except DecodeFault (ρ × List String)
  | [], seen, record => .ok (record, seen)
  | (key, draft) :: rest, seen, record => do
    let name ← nameOf key
    match fields.find? fun field => field.name == name with
    | none => decodeMembers fields remaining rest seen record
    | some field =>
      if seen.contains name then .error (.duplicateField name)
      else do
        let record ← field.decode remaining draft record
        decodeMembers fields remaining rest (name :: seen) record

/-- Decodes the fields of a record that is written as an array; the fields without an item are
returned. -/
def decodePositions {ρ : Type} (remaining : Nat) :
    List (RecordField ρ) → List Draft → ρ → Except DecodeFault (ρ × List (RecordField ρ) × List Draft)
  | field :: fields, item :: items, record => do
    let record ← field.decode remaining item record
    decodePositions remaining fields items record
  | fields, items, record => .ok (record, fields, items)

/-- How an array for a record with required fields is named in messages. -/
def recordText {ρ : Type} (name : String) (fields : List (RecordField ρ)) : String :=
  "struct " ++ name ++ " with " ++ Text.decimalText fields.length ++ " elements"

/-- Decodes a record, starting from the one whose fields have their defaults. -/
def decodeRecord {ρ : Type} (name : String) (fields : List (RecordField ρ)) (start : ρ) : Decoder ρ :=
  fun remaining draft =>
    match draft with
    | .object members closed => do
      let remaining ← enter remaining
      let (record, seen) ← decodeMembers fields remaining members [] start
      let record ← finish closed record
      match fields.find? fun field => field.required && !seen.contains field.name with
      | some field => .error (.missingField field.name)
      | none => .ok record
    | .array items closed => do
      let remaining ← enter remaining
      let (record, unread, extra) ← decodePositions remaining fields items start
      if !closed || !extra.isEmpty then .error .malformed
      match unread.find? fun field => field.required with
      | some _ => .error (.invalidLength items.length (recordText name fields))
      | none => .ok record
    | draft => .error (mismatch ("struct " ++ name) draft)

/-- Decodes a text that holds one value and nothing else. -/
def decodeText {α : Type} (decode : Decoder α) (text : String) : Except DecodeFault α := do
  let (draft, whole) := read text.toList
  let value ← decode nestingLimit draft
  finish whole value

end Sbom.Json
