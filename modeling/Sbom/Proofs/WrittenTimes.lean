import Sbom.Proofs.Agreement

/-!
# The time in both encodings

A document is written with its time. JSON has the text of the instant and XML has the text cut to
whole seconds, so that a reader of JSON finds the instant of the document and a reader of XML the
second it is in. Both find the same exactly if the instant has no fraction of a second.
-/

namespace Sbom

namespace Calendar

variable {instant : Instant}

/-- The start of the second that an instant is in. -/
def Instant.wholeSeconds (instant : Instant) : Instant :=
  { instant with nanosecond := 0, nanosecond_lt := Nat.zero_lt_succ _ }

/-- Cutting an instant to whole seconds changes exactly those that have a fraction of a second. -/
theorem Instant.wholeSeconds_eq_self_iff : instant.wholeSeconds = instant ↔ instant.nanosecond = 0 := by
  constructor
  · intro same
    exact (congrArg Instant.nanosecond same).symm
  · intro whole
    cases instant
    subst whole
    rfl

/-- The text of an instant cut to whole seconds is read as the start of its second. -/
theorem Instant.parse_secondsText (instant : Instant) :
    Instant.parse instant.secondsText = .ok instant.wholeSeconds := by
  have sameText : instant.secondsText = instant.wholeSeconds.secondsText := rfl
  rw [sameText, CycloneDx.secondsText_eq_text rfl, Instant.parse_text]

end Calendar

namespace Xml

/-- Whether a token starts an element of a name. -/
def Token.opens (name : String) : Token → Bool
  | .tag .opening found _ => found == name
  | _ => false

/-- The text in the first element of a name, if the element holds text only, with its references
resolved. -/
def firstText? (name : String) (tokens : List Token) : Option (List Char) :=
  match tokens.dropWhile fun token => !token.opens name with
  | _ :: .data text :: .tag .closing _ _ :: _ => unescape? text
  | _ => none

end Xml

/-- The time of a converted document is the date of the graph document. -/
theorem Conversion.convert_timestamp {behavior : Settings.Behavior}
    {interrupt : Conversion.Interrupt} {document : Graph.Document}
    {converted : Conversion.Converted}
    (succeeds : Conversion.convert behavior interrupt document = .ok converted) :
    converted.bom.metadata.timestamp = document.metadata.date := by
  obtain ⟨assembled, assembles, same⟩ := Conversion.convert_eq_ok succeeds
  have kept : converted.bom.metadata.timestamp = assembled.bom.metadata.timestamp := by
    rw [same]
    split <;> rfl
  obtain ⟨_, _, metadata, _, _, mapped, -, rfl⟩ := Conversion.assemble_eq_ok assembles
  rw [kept]
  show metadata.timestamp = document.metadata.date
  unfold Conversion.documentMetadata at mapped
  cases staged : Conversion.lifecycles document.metadata.documentTypes with
  | error failure => simp [staged, bind, Except.bind] at mapped
  | ok stages =>
      simp only [staged, bind, Except.bind, pure, Except.pure, Except.ok.injEq] at mapped
      rw [← mapped]

namespace CycloneDx

open Calendar (Instant)

/-- The time that a reader finds in JSON output. -/
def jsonTimestamp? (text : List Char) : Option String := do
  let document ← Json.parse? text
  let metadata ← document.member? "metadata"
  match ← metadata.member? "timestamp" with
  | .string time => some time
  | _ => none

/-- The time that a reader finds in XML output. -/
def xmlTimestamp? (text : List Char) : Option String := do
  let tokens ← Xml.tokens? text
  let time ← Xml.firstText? "timestamp" tokens
  return String.ofList time

variable {bom : Bom} {instant : Instant} {version encoding : String} {text : List Char}

/-- What a document loses for an older version is not its time. -/
theorem Bom.timestamp_downgrade (bom : Bom) (target : SpecVersion) :
    (bom.downgrade target).metadata.timestamp = bom.metadata.timestamp := by
  unfold Bom.downgrade
  split <;> rfl

theorem Metadata.member?_timestamp {metadata : Metadata} (made : metadata.timestamp = some instant) :
    metadata.toJson.member? "timestamp" = some (.string instant.text) := by
  simp [toJson, made, optionMember, Json.member?]

/-- In JSON output the time of a document is the text of its instant. -/
theorem Bom.Written.jsonTimestamp? (written : bom.Written version encoding text)
    (isJson : Encoding.parse encoding = .ok .json) (made : bom.metadata.timestamp = some instant) :
    CycloneDx.jsonTimestamp? text = some instant.text := by
  obtain ⟨target, _, known, -⟩ := Bom.written_iff.mp written
  have made : (bom.downgrade target).metadata.timestamp = some instant := by
    rw [Bom.timestamp_downgrade, made]
  simp [CycloneDx.jsonTimestamp?, written.parse?_eq known isJson, Bom.member?_metadata,
    Metadata.member?_timestamp made]

/-- The first element for a time in the tokens of a document is that of the metadata. -/
theorem Bom.firstText?_tokens (made : bom.metadata.timestamp = some instant) (target : SpecVersion)
    (before after : List Xml.Token)
    (noneBefore : ∀ token ∈ before, token.opens "timestamp" = false) :
    Xml.firstText? "timestamp" (before ++ ((bom.element target).tokens 0 ++ after)) =
      some instant.secondsText.toList := by
  have resolved := Xml.unescape?_escape instant.secondsText
  have notEmpty : Xml.escape instant.secondsText ≠ [] := by
    intro isEmpty
    have noText : [] = instant.secondsText.toList := by
      simpa [isEmpty, Xml.unescape?, Xml.unescapeFrom?] using resolved
    simp [Instant.secondsText, Instant.textWith] at noText
  rw [Xml.firstText?, List.dropWhile_append_of_pos (by simpa using noneBefore)]
  simp [Bom.element, Metadata.element, made, Xml.Element.tokens, Xml.childTokens, Xml.Token.opens,
    Xml.dataTokens, notEmpty, resolved]

/-- In XML output the time of a document is the text of its instant cut to whole seconds. -/
theorem Bom.Written.xmlTimestamp? (written : bom.Written version encoding text)
    (isXml : Encoding.parse encoding = .ok .xml) (made : bom.metadata.timestamp = some instant) :
    CycloneDx.xmlTimestamp? text = some instant.secondsText := by
  obtain ⟨target, -, isDocument⟩ := written.isDocument isXml
  have made : (bom.downgrade target).metadata.timestamp = some instant := by
    rw [Bom.timestamp_downgrade, made]
  have found := Bom.firstText?_tokens made target
    [.instruction "xml version=\"1.0\" encoding=\"UTF-8\"".toList, .data ['\n']] [.data ['\n']]
    (by simp [Xml.Token.opens])
  simp only [List.cons_append, List.nil_append] at found
  simp only [CycloneDx.xmlTimestamp?, isDocument.reads, bind, Option.bind, found, pure,
    String.ofList_toList]

/-- What the outputs of one document say about its time: a reader of JSON finds the instant of the
document, and a reader of XML the start of the second it is in. They find the same exactly if the
instant has no fraction of a second. The instant of a converted document is the date of the graph
document. -/
theorem written_timestamps (made : bom.metadata.timestamp = some instant)
    {jsonName xmlName : String} (isJson : Encoding.parse jsonName = .ok .json)
    (isXml : Encoding.parse xmlName = .ok .xml) {json xml : List Char}
    (jsonWritten : bom.Written version jsonName json)
    (xmlWritten : bom.Written version xmlName xml) :
    (∃ jsonTime xmlTime, jsonTimestamp? json = some jsonTime ∧ xmlTimestamp? xml = some xmlTime ∧
      jsonTime = instant.text ∧ xmlTime = instant.secondsText ∧
      Instant.parse jsonTime = .ok instant ∧ Instant.parse xmlTime = .ok instant.wholeSeconds ∧
      (Instant.parse xmlTime = Instant.parse jsonTime ↔ instant.nanosecond = 0)) ∧
    ∀ behavior interrupt document converted,
      Conversion.convert behavior interrupt document = .ok converted → converted.bom = bom →
        document.metadata.date = some instant := by
  constructor
  · refine ⟨_, _, jsonWritten.jsonTimestamp? isJson made, xmlWritten.xmlTimestamp? isXml made, rfl,
      rfl, instant.parse_text, instant.parse_secondsText, ?_⟩
    rw [instant.parse_text, instant.parse_secondsText, Except.ok.injEq,
      Calendar.Instant.wholeSeconds_eq_self_iff]
  · intro behavior interrupt document converted succeeds same
    rw [← made, ← same]
    exact (Conversion.convert_timestamp succeeds).symm

/-- A quarter of a second after the epoch. -/
def quarterSecond : Instant :=
  { Calendar.epoch with nanosecond := 250000000, nanosecond_lt := by decide }

/-- A document whose time has a fraction of a second. -/
def fractionBom : Bom where
  metadata := { timestamp := some quarterSecond }

theorem fractionBom_written {encoding : String} {form : Encoding}
    (isForm : Encoding.parse encoding = .ok form) :
    ∃ text, fractionBom.Written "1.5" encoding text :=
  Bom.exists_written (rfl : SpecVersion.parse "1.5" = .ok .v1_5) isForm ⟨by decide, by decide⟩
    (by decide)

theorem written_fractionBom_timestamps :
    ∃ json xml, fractionBom.Written "1.5" "json" json ∧ fractionBom.Written "1.5" "xml" xml ∧
      jsonTimestamp? json = some "1970-01-01T00:00:00.250Z" ∧
      xmlTimestamp? xml = some "1970-01-01T00:00:00Z" ∧
      Instant.parse "1970-01-01T00:00:00Z" ≠ Instant.parse "1970-01-01T00:00:00.250Z" := by
  have isJson : Encoding.parse "json" = .ok .json := by rfl
  have isXml : Encoding.parse "xml" = .ok .xml := by rfl
  obtain ⟨json, jsonWritten⟩ := fractionBom_written isJson
  obtain ⟨xml, xmlWritten⟩ := fractionBom_written isXml
  have made : fractionBom.metadata.timestamp = some quarterSecond := rfl
  obtain ⟨⟨_, _, inJson, inXml, rfl, rfl, -, -, same⟩, -⟩ :=
    written_timestamps made isJson isXml jsonWritten xmlWritten
  have withFraction : quarterSecond.text = "1970-01-01T00:00:00.250Z" := by
    simp [quarterSecond, Calendar.epoch, Instant.text, Instant.textWith, Calendar.yearText,
      Calendar.fractionText, Text.decimalPadded, Text.decimal, Text.decimalDigit]
  have withoutFraction : quarterSecond.secondsText = "1970-01-01T00:00:00Z" := by
    simp [quarterSecond, Calendar.epoch, Instant.secondsText, Instant.textWith, Calendar.yearText,
      Text.decimalPadded, Text.decimal, Text.decimalDigit]
  rw [withFraction] at inJson same
  rw [withoutFraction] at inXml same
  refine ⟨json, xml, jsonWritten, xmlWritten, inJson, inXml, fun agree => ?_⟩
  exact absurd (same.mp agree) (by decide)

/-- A reader of XML output does not always find the instant of the document. -/
theorem not_forall_xmlTimestamp :
    ¬ ∀ (bom : Bom) (instant : Instant) (version encoding : String) (text : List Char),
      bom.metadata.timestamp = some instant → Encoding.parse encoding = .ok .xml →
      bom.Written version encoding text →
      ∃ time, xmlTimestamp? text = some time ∧ Instant.parse time = .ok instant := by
  intro always
  have isXml : Encoding.parse "xml" = .ok .xml := by rfl
  obtain ⟨text, written⟩ := fractionBom_written isXml
  obtain ⟨time, found, parsed⟩ := always fractionBom _ "1.5" "xml" text rfl isXml written
  cases found.symm.trans (written.xmlTimestamp? isXml rfl)
  rw [Instant.parse_secondsText, Except.ok.injEq, Instant.wholeSeconds_eq_self_iff] at parsed
  exact absurd parsed (by decide)

end CycloneDx

end Sbom
