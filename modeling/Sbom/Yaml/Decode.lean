import Sbom.Yaml.Event
import Sbom.Yaml.Meaning

/-!
# Decoding events

Decoders turn the events of a document into a typed value. They take the events in the order of the
text, so the first thing that does not fit is the one reported, together with the path to it. A
reference stands for the node that it names; where no value is read, references are not followed.
-/

namespace Sbom.Yaml

/-! ## Faults -/

/-- The way to a value from the root: the names of the fields. -/
abbrev Path := List String

/-- Why a text does not decode. -/
inductive DecodeFault where
  /-- The text is not one YAML document. -/
  | malformed
  /-- A value is of the wrong kind. -/
  | wrongKind (path : Path) (found expected : String)
  /-- A text is not what its tag says. -/
  | wrongText (path : Path) (text expected : String)
  /-- A field is given twice. -/
  | duplicateField (path : Path) (name : String)
deriving DecidableEq, Repr

/-- The path in front of a message; none at the root. -/
def pathText (path : Path) : String :=
  if path.isEmpty then "" else ".".intercalate path ++ ": "

/-- The wording of a fault. -/
def DecodeFault.message : DecodeFault → String
  | .malformed => "malformed YAML"
  | .wrongKind path found expected =>
    pathText path ++ "invalid type: " ++ found ++ ", expected " ++ expected
  | .wrongText path text expected =>
    pathText path ++ "invalid value: string " ++ Text.shownQuoted text ++ ", expected " ++ expected
  | .duplicateField path name => pathText path ++ "duplicate field " ++ Text.backQuoted name

/-- The tags that fix the meaning of a scalar. -/
inductive CoreTag where
  /-- A truth value. -/
  | bool
  /-- An integer. -/
  | int
  /-- A floating point number. -/
  | float
  /-- Nothing. -/
  | null
deriving DecidableEq, Repr

namespace CoreTag

/-- The full text of a tag. -/
def text : CoreTag → String
  | .bool => "tag:yaml.org,2002:bool"
  | .int => "tag:yaml.org,2002:int"
  | .float => "tag:yaml.org,2002:float"
  | .null => "tag:yaml.org,2002:null"

/-- All tags. -/
def all : List CoreTag := [.bool, .int, .float, .null]

/-- The tag with a text. -/
def ofText? (text : String) : Option CoreTag :=
  all.find? fun tag => tag.text == text

/-- What a tag asks for, as a message puts it. -/
def expected : CoreTag → String
  | .bool => "a boolean"
  | .int => "an integer"
  | .float => "a float"
  | .null => "null"

/-- The meaning that a tag gives to a text, if the text has one of its kind. -/
def meaning? (tag : CoreTag) (text : String) : Option Meaning :=
  match tag with
  | .bool => (boolOf? text).map .bool
  | .int => (integerOf? text.toList).map .integer
  | .float => floatOf? text.toList
  | .null => if nullTexts.contains text then some .null else none

end CoreTag

/-- The fault of a scalar that is not of the expected kind. A tag decides what the scalar is; without
one a plain scalar has its own meaning, and any other one is text. -/
def scalarMismatch (path : Path) (expected : String) (tag : Option String) (text : String)
    (style : Style) : DecodeFault :=
  let untagged := if style = .plain then meaningOf text else .text
  match tag with
  | none => .wrongKind path (untagged.shown text) expected
  | some tag =>
    match CoreTag.ofText? tag with
    | some core =>
      match core.meaning? text with
      | some meaning => .wrongKind path (meaning.shown text) expected
      | none => .wrongText path text core.expected
    | none =>
      let meaning := if tag.startsWith "!" then untagged else .text
      .wrongKind path (meaning.shown text) expected

/-- The fault of a node that is not of the expected kind, given the event that starts it. -/
def mismatch (path : Path) (expected : String) : Event → DecodeFault
  | .scalar _ tag text style => scalarMismatch path expected tag text style
  | .sequenceStart _ => .wrongKind path "sequence" expected
  | .mappingStart _ => .wrongKind path "map" expected
  | _ => .malformed

/-! ## References -/

/-- An event with the number of the anchor that it sets or refers to. -/
structure Linked where
  /-- The event. -/
  event : Event
  /-- The number of the anchor. -/
  number : Option Nat
deriving DecidableEq, Repr

/-- The number that the next anchor gets: how many different names were seen before. A name that is
set again gets a number as well, which a later name may get once more. -/
def nextNumber (names : List (String × Nat)) : Nat :=
  (names.map Prod.fst).eraseDups.length

/-- Events with the numbers of their anchors. The events break off at a reference to a name that was
not set before. -/
def linked (names : List (String × Nat)) : List Event → List Linked
  | [] => []
  | .alias name :: rest =>
    match names.lookup name with
    | some number => ⟨.alias name, some number⟩ :: linked names rest
    | none => []
  | event :: rest =>
    match event.anchor? with
    | some name =>
      let number := nextNumber names
      ⟨event, some number⟩ :: linked ((name, number) :: names) rest
    | none => ⟨event, none⟩ :: linked names rest

/-- Whether an event is a reference. -/
def Event.isAlias : Event → Bool
  | .alias _ => true
  | _ => false

/-- The events from the node on that the number of an anchor stands for: the last node of the
document with that number. -/
def targetOf (number : Nat) : List Linked → List Linked
  | [] => []
  | item :: rest =>
    match targetOf number rest with
    | [] => if item.number = some number && !item.event.isAlias then item :: rest else []
    | found => found

/-! ## Decoders -/

/-- Decodes the node at the start of events, and gives the events after it. The first argument is the
whole document, for references. -/
abbrev Decoder (α : Type) :=
  List Linked → Path → List Linked → Except DecodeFault (α × List Linked)

/-- Decodes the node that a reference stands for; the events after the reference follow. -/
def throughReference {α : Type} (decode : Decoder α) : Decoder α := fun document path events =>
  match events with
  | ⟨.alias _, some number⟩ :: rest => do
    let (value, _) ← decode document path (targetOf number document)
    return (value, rest)
  | events => decode document path events

/-- Decodes a scalar as its text; `expected` is how messages call it. -/
def decodeTextAs (expected : String) : Decoder String :=
  throughReference fun _ path events =>
    match events with
    | [] => .error .malformed
    | ⟨.scalar _ _ text _, _⟩ :: rest => .ok (text, rest)
    | item :: _ => .error (mismatch path expected item.event)

/-- Decodes any scalar as a string. -/
def decodeString : Decoder String :=
  decodeTextAs "a string"

/-- Whether a scalar may be a truth value: it is plain, or a block of lines with the tag. -/
def mayBeBool (tag : Option String) (style : Style) : Bool :=
  style = .plain || (style = .literal && tag == some CoreTag.bool.text)

/-- Decodes a truth value. -/
def decodeBool : Decoder Bool :=
  throughReference fun _ path events =>
    match events with
    | [] => .error .malformed
    | ⟨.scalar anchor tag text style, _⟩ :: rest =>
      match (if mayBeBool tag style then boolOf? text else none) with
      | some value => .ok (value, rest)
      | none => .error (mismatch path "a boolean" (.scalar anchor tag text style))
    | item :: _ => .error (mismatch path "a boolean" item.event)

/-- Skips a node inside `depth` open collections; none when the events break off. -/
def skipNode (depth : Nat) : List Linked → Option (List Linked)
  | [] => none
  | item :: rest =>
    match item.event with
    | .sequenceStart _ | .mappingStart _ => skipNode (depth + 1) rest
    | .sequenceEnd | .mappingEnd => if depth ≤ 1 then some rest else skipNode (depth - 1) rest
    | .alias _ | .scalar _ _ _ _ => if depth = 0 then some rest else skipNode depth rest

/-- A field of a record: its name and how its value is put into the record. -/
structure RecordField (ρ : Type) where
  /-- The name of the field. -/
  name : String
  /-- Decodes the value of the field into the record. -/
  decode : ρ → Decoder ρ

/-- A field from the decoder of its value and its setter. -/
def RecordField.of {ρ α : Type} (name : String) (decode : Decoder α) (set : ρ → α → ρ) : RecordField ρ where
  name := name
  decode record document path events := do
    let (value, rest) ← decode document path events
    return (set record value, rest)

/-- How a path names the value of a key: by the text of the key where it stands. -/
def segmentOf : List Linked → String
  | ⟨.scalar _ _ text _, _⟩ :: _ => text
  | _ => "?"

/-- Decodes the entries of a mapping into a record, up to its end. `seen` holds the names of the
fields read so far; entries that are no fields are skipped. The fuel bounds the number of entries. -/
def decodeEntries {ρ : Type} (fields : List (RecordField ρ)) (document : List Linked) (path : Path) :
    Nat → List String → ρ → List Linked → Except DecodeFault (ρ × List Linked)
  | 0, _, _, _ => .error .malformed
  | fuel + 1, seen, record, events =>
    match events with
    | ⟨.mappingEnd, _⟩ :: rest => .ok (record, rest)
    | events => do
      let (key, rest) ← decodeTextAs "field identifier" document path events
      match fields.find? fun field => field.name == key with
      | none =>
        match skipNode 0 rest with
        | some rest => decodeEntries fields document path fuel seen record rest
        | none => .error .malformed
      | some field =>
        if seen.contains key then .error (.duplicateField path key)
        else do
          let (record, rest) ← field.decode record document (path ++ [segmentOf events]) rest
          decodeEntries fields document path fuel (key :: seen) record rest

/-- Decodes a record from a mapping, starting from the one whose fields have their defaults. Nothing
at all stands for an empty mapping. -/
def decodeRecord {ρ : Type} (name : String) (fields : List (RecordField ρ)) (start : ρ) : Decoder ρ :=
  throughReference fun document path events =>
    match events with
    | [] => .error .malformed
    | ⟨.mappingStart _, _⟩ :: rest =>
      decodeEntries fields document path (rest.length + 1) [] start rest
    | ⟨.scalar _ _ "" .plain, _⟩ :: rest => .ok (start, rest)
    | item :: _ => .error (mismatch path ("struct " ++ name) item.event)

/-- Decodes a text that holds one document and nothing else. A text without a document has the value
`absent`. What does not fit is reported before what is malformed further on. -/
def decodeText {α : Type} (decode : Decoder α) (absent : α) (text : String) :
    Except DecodeFault α :=
  let document := readDocument text.toList
  if document.events.isEmpty then
    if document.alone then .ok absent else .error .malformed
  else do
    let events := linked [] document.events
    let (value, _) ← decode events [] events
    if document.alone && events.length = document.events.length then .ok value
    else .error .malformed

end Sbom.Yaml
