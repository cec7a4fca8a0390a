import Sbom.Proofs.Yaml.Entries
import Sbom.Settings.Text

/-!
# Reading settings back

Settings are read back from their text, whatever their strings hold. The text is a list of entries,
each of which is read as it is meant, so the document has the events of the settings; and a decoder
that meets the fields of a record one after the other fills the record with their values.
-/

namespace Sbom.Yaml

variable {ρ : Type} {fields : List (RecordField ρ)} {field : RecordField ρ} {record next : ρ}
  {document rest later : List Linked} {path : Path} {key : String} {style : Style}
  {seen : List String} {fuel : Nat}

/-- The decoder of a record goes on after a field that it has not met before. -/
theorem decodeEntries_field (named : fields.find? (fun field => field.name == key) = some field)
    (fresh : seen.contains key = false)
    (reads : field.decode record document (path ++ [key]) rest = .ok (next, later)) :
    decodeEntries fields document path (fuel + 1) seen record
        (⟨.scalar none none key style, none⟩ :: rest) =
      decodeEntries fields document path fuel (key :: seen) next later := by
  rw [decodeEntries]
  · simp only [decodeTextAs, throughReference, bind, Except.bind, named, fresh, segmentOf, reads]
    rfl
  · nofun

theorem RecordField.decode_of {α : Type} {name : String} {decode : Decoder α} {set : ρ → α → ρ}
    {value : α} (reads : decode document path rest = .ok (value, later)) :
    (RecordField.of name decode set).decode record document path rest =
      .ok (set record value, later) := by
  rw [RecordField.of]
  simp only [reads, bind, Except.bind]
  rfl

end Sbom.Yaml

namespace Sbom.Settings

open Yaml

/-! ## The written entries -/

/-- The text of a truth value. -/
def boolText (value : Bool) : String :=
  if value then "true" else "false"

/-- The entry of a section. -/
def sectionEntry (name : String) : WrittenEntry :=
  ⟨0, name.toList, none⟩

/-- The entry of a field in a section, from the written value. -/
def fieldEntry (name : String) (value : WrittenValue) : WrittenEntry :=
  ⟨indentStep, name.toList, some value⟩

/-- A text as it is written in a field. -/
def textValue (text : String) : WrittenValue :=
  ⟨scalarForm (indentStep + indentStep) text, text.toList, styleOf text⟩

/-- A truth value as it is written in a field. -/
def boolValue (value : Bool) : WrittenValue :=
  ⟨(boolText value).toList ++ ['\n'], (boolText value).toList, .plain⟩

/-- The entries of settings. -/
def writtenEntries (settings : Settings) : List WrittenEntry :=
  [sectionEntry "output",
    fieldEntry "spec_version" (textValue settings.output.version),
    fieldEntry "encoding" (textValue settings.output.encoding),
    sectionEntry "behavior",
    fieldEntry "strict" (boolValue settings.behavior.strict),
    fieldEntry "log_degradations" (boolValue settings.behavior.logDegradations),
    fieldEntry "clear_auto_refs" (boolValue settings.behavior.clearGeneratedRefs),
    fieldEntry "auto_ref_prefix" (textValue settings.behavior.generatedMark)]

theorem toList_text (settings : Settings) :
    settings.text.toList = settings.writtenEntries.flatMap WrittenEntry.chars := by
  simp [text, Output.entries, Behavior.entries, sectionLine, textEntry, boolEntry, entryForm,
    writtenEntries, sectionEntry, fieldEntry, textValue, boolValue, boolText, indentStep,
    WrittenEntry.chars, WrittenEntry.body, WrittenEntry.ending, margin, List.replicate]

/-- A truth value is read back from its text. -/
theorem isRead_boolValue (width : Nat) (value : Bool) :
    IsRead width (boolValue value).form (boolValue value).text (boolValue value).style := by
  refine isRead_plain width ?_ ?_
  · cases value <;> decide
  · cases value <;> decide

theorem isReadableText_boolValue (value : Bool) : IsReadableText (boolValue value).form := by
  have checked : (boolValue value).form.all isReadable = true := by
    cases value <;> decide
  exact List.all_eq_true.mp checked

/-- The names of the sections and fields. -/
def entryNames : List String :=
  ["output", "behavior", "spec_version", "encoding", "strict", "log_degradations", "clear_auto_refs",
    "auto_ref_prefix"]

theorem isEntryName_of_mem : ∀ name ∈ entryNames, IsEntryName name.toList := by
  intro name member
  have checked : entryNames.all (fun name =>
      name.toList.head?.any (fun c => 97 ≤ c.toNat && c.toNat ≤ 122) &&
        name.toList.all (fun c => c == '_' || (97 ≤ c.toNat && c.toNat ≤ 122)) &&
          decide (name.toList.length ≤ keyReach)) = true := by
    decide
  have checks := List.all_eq_true.mp checked name member
  simp only [Bool.and_eq_true, decide_eq_true_eq, List.all_eq_true, Bool.or_eq_true, beq_iff_eq,
    Option.any_eq_true] at checks
  exact ⟨checks.1.1, checks.1.2, checks.2⟩

theorem areSound_writtenEntries (settings : Settings) : AreSound settings.writtenEntries := by
  have sectionSound : ∀ name ∈ entryNames, (sectionEntry name).IsSound := fun name member =>
    ⟨isEntryName_of_mem name member, nofun, nofun⟩
  have textSound : ∀ name ∈ entryNames, ∀ text, (fieldEntry name (textValue text)).IsSound :=
    fun name member text => ⟨isEntryName_of_mem name member,
      fun value isValue => by cases isValue; exact isRead_scalarForm indentStep text,
      fun value isValue => by cases isValue; exact isReadableText_scalarForm _ text⟩
  have boolSound : ∀ name ∈ entryNames, ∀ value, (fieldEntry name (boolValue value)).IsSound :=
    fun name member value => ⟨isEntryName_of_mem name member,
      fun written isValue => by cases isValue; exact isRead_boolValue indentStep value,
      fun written isValue => by cases isValue; exact isReadableText_boolValue value⟩
  refine .cons (sectionSound _ (by decide)) nofun ?_
  refine .cons (textSound _ (by decide) _) (fun _ => Nat.le_refl _) ?_
  refine .cons (textSound _ (by decide) _) (fun _ => Nat.zero_le _) ?_
  refine .cons (sectionSound _ (by decide)) nofun ?_
  refine .cons (boolSound _ (by decide) _) (fun _ => Nat.le_refl _) ?_
  refine .cons (boolSound _ (by decide) _) (fun _ => Nat.le_refl _) ?_
  refine .cons (boolSound _ (by decide) _) (fun _ => Nat.le_refl _) ?_
  exact .cons (textSound _ (by decide) _) (fun _ => Nat.zero_le _) .nil

/-! ## The events -/

/-- The event of a name. -/
def nameEvent (name : String) : Event :=
  .scalar none none name .plain

/-- The event of a written value. -/
def valueEvent (value : WrittenValue) : Event :=
  .scalar none none (String.ofList value.text) value.style

/-- The events of what is written. -/
def Output.events (output : Output) : List Event :=
  [.mappingStart none,
    nameEvent "spec_version", valueEvent (textValue output.version),
    nameEvent "encoding", valueEvent (textValue output.encoding),
    .mappingEnd]

/-- The events of a behaviour. -/
def Behavior.events (behavior : Behavior) : List Event :=
  [.mappingStart none,
    nameEvent "strict", valueEvent (boolValue behavior.strict),
    nameEvent "log_degradations", valueEvent (boolValue behavior.logDegradations),
    nameEvent "clear_auto_refs", valueEvent (boolValue behavior.clearGeneratedRefs),
    nameEvent "auto_ref_prefix", valueEvent (textValue behavior.generatedMark),
    .mappingEnd]

/-- The events of settings. -/
def events (settings : Settings) : List Event :=
  .mappingStart none :: nameEvent "output" :: (settings.output.events ++
    nameEvent "behavior" :: (settings.behavior.events ++ [.mappingEnd]))

/-- The document in the text of settings has the events of the settings, and nothing else. -/
theorem readDocument_text (settings : Settings) :
    readDocument settings.text.toList = ⟨settings.events, true⟩ := by
  rw [readDocument, toList_text, tokensOf_entries (areSound_writtenEntries settings)]
  simp [writtenEntries, sectionEntry, fieldEntry, entriesTokens, keyTokens, endTokens, startTokens,
    startsBlock, keptBlocks, openedBlocks, indentStep, WrittenEntry.valueTokens, closingTokens,
    documentEvents, startsMarked, nodeEvents, readProperties?, blockMappingEvents, partEvents,
    endsMappingPart, blockValueEvents, Found.andThen, Found.after, scalarTag, documentOf,
    nothingFollows, events, Output.events, Behavior.events, nameEvent, valueEvent]

/-- Events without anchors. -/
def unlinked (events : List Event) : List Linked :=
  events.map fun event => ⟨event, none⟩

/-! ## Decoding -/

section Decoding

variable (document rest : List Linked) (path : Path)

theorem decodeString_value (text : String) :
    decodeString document path (⟨valueEvent (textValue text), none⟩ :: rest) = .ok (text, rest) := by
  simp [decodeString, decodeTextAs, throughReference, valueEvent, textValue]

theorem decodeBool_value (value : Bool) :
    decodeBool document path (⟨valueEvent (boolValue value), none⟩ :: rest) = .ok (value, rest) := by
  cases value <;> rfl

theorem decodeOutput_events (output : Output) :
    decodeOutput document path (unlinked output.events ++ rest) = .ok (output, rest) := by
  refine (decodeEntries_field rfl rfl
    (RecordField.decode_of (decodeString_value _ _ _ output.version))).trans ?_
  refine (decodeEntries_field rfl rfl
    (RecordField.decode_of (decodeString_value _ _ _ output.encoding))).trans ?_
  rfl

theorem decodeBehavior_events (behavior : Behavior) :
    decodeBehavior document path (unlinked behavior.events ++ rest) = .ok (behavior, rest) := by
  refine (decodeEntries_field rfl rfl
    (RecordField.decode_of (decodeBool_value _ _ _ behavior.strict))).trans ?_
  refine (decodeEntries_field rfl rfl
    (RecordField.decode_of (decodeBool_value _ _ _ behavior.logDegradations))).trans ?_
  refine (decodeEntries_field rfl rfl
    (RecordField.decode_of (decodeBool_value _ _ _ behavior.clearGeneratedRefs))).trans ?_
  refine (decodeEntries_field rfl rfl
    (RecordField.decode_of (decodeString_value _ _ _ behavior.generatedMark))).trans ?_
  rfl

theorem decodeSettings_events (settings : Settings) :
    decodeSettings document path (unlinked settings.events ++ rest) = .ok (settings, rest) := by
  refine (decodeEntries_field rfl rfl
    (RecordField.decode_of (decodeOutput_events _ _ _ settings.output))).trans ?_
  refine (decodeEntries_field rfl rfl
    (RecordField.decode_of (decodeBehavior_events _ _ _ settings.behavior))).trans ?_
  rfl

end Decoding

theorem linked_events (settings : Settings) :
    linked [] settings.events = unlinked settings.events := rfl

/-- Settings are read back from their text, whatever their strings hold. -/
theorem text_parses (settings : Settings) : parse settings.text = .ok settings := by
  have decodes := decodeSettings_events (unlinked settings.events) [] [] settings
  rw [List.append_nil] at decodes
  have sameLength : (unlinked settings.events).length = settings.events.length := List.length_map _
  rw [parse, decodeText, readDocument_text, linked_events]
  simp only [decodes, bind, Except.bind, sameLength]
  rfl

end Sbom.Settings
