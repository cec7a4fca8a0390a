import Sbom.Proofs.Yaml.Tokens

/-!
# The tokens of written entries

Text is written as entries, one after the other: a name at a margin and a colon, and on the same line
a value or nothing. The tokens that are read from it follow from the margins, names and values alone,
whatever the values are. Every text has a form as a value, and the reader gives that text back.
-/

namespace Sbom.Yaml

/-! ## Values -/

/-- A text that has a meaning as text is not empty. -/
theorem ne_nil_of_isPlainText {text : String} (isText : isPlainText text = true) :
    text.toList ≠ [] := by
  intro isEmpty
  have noText : text = "" := String.toList_inj.mp isEmpty
  simp [isPlainText, meaningOf, noText] at isText

/-- What the style of a text says about it. -/
inductive HasStyle (text : List Char) : Style → Prop
  | literal (printable : ∀ c ∈ text, isPrintable c = true) (notEmpty : text ≠ []) :
      HasStyle text .literal
  | plain (fits : fitsPlain text = true) (notEmpty : text ≠ []) : HasStyle text .plain
  | singleQuoted (printable : ∀ c ∈ text, isPrintable c = true) (noFeed : '\n' ∉ text)
      (noBlankEnd : hasPair isSpace isBreak text = false)
      (noBlankStart : hasPair isBreak isSpace text = false) : HasStyle text .singleQuoted
  | doubleQuoted : HasStyle text .doubleQuoted

theorem hasStyle_styleOf (text : String) : HasStyle text.toList (styleOf text) := by
  unfold styleOf
  dsimp only
  split
  case isTrue feeds =>
    have notEmpty : text.toList ≠ [] := by
      intro isEmpty
      simp [isEmpty] at feeds
    split
    case isTrue fits =>
      simp only [fitsLines, Bool.and_eq_true, List.all_eq_true] at fits
      exact .literal fits.1.1 notEmpty
    case isFalse => exact .doubleQuoted
  case isFalse noFeed =>
    split
    case isTrue plain =>
      rw [Bool.and_eq_true] at plain
      exact .plain plain.2 (ne_nil_of_isPlainText plain.1)
    case isFalse =>
      split
      case isTrue fits =>
        simp only [fitsSingleQuotes, Bool.and_eq_true, List.all_eq_true, Bool.not_eq_true'] at fits
        exact .singleQuoted fits.1.1 (by simpa using noFeed) fits.1.2 fits.2
      case isFalse => exact .doubleQuoted

/-- Every text is read back from its form, in whichever style it is written. -/
theorem isRead_scalarForm (width : Nat) (text : String) :
    IsRead width (scalarForm (width + indentStep) text) text.toList (styleOf text) := by
  have hasStyle := hasStyle_styleOf text
  unfold scalarForm
  dsimp only
  generalize styleOf text = style at hasStyle ⊢
  cases hasStyle with
  | literal printable notEmpty => exact isRead_literal width printable notEmpty
  | plain fits notEmpty => exact isRead_plain width fits notEmpty
  | singleQuoted printable noFeed noBlankEnd noBlankStart =>
      exact isRead_singleQuoted width printable noFeed noBlankEnd noBlankStart
  | doubleQuoted => exact isRead_doubleQuoted width text.toList

/-! ## Characters -/

/-- Whether all characters of a text can be read. -/
def IsReadableText (text : List Char) : Prop :=
  ∀ c ∈ text, isReadable c = true

theorem isReadableText_append {text others : List Char} :
    IsReadableText (text ++ others) ↔ IsReadableText text ∧ IsReadableText others :=
  List.forall_mem_append

theorem isReadableText_of_isPrintable {text : List Char}
    (printable : ∀ c ∈ text, isPrintable c = true) : IsReadableText text :=
  fun c member => isReadable_of_isPrintable (printable c member)

theorem isReadableText_margin (width : Nat) : IsReadableText (margin width) := by
  intro c member
  rw [List.eq_of_mem_replicate member]
  decide

theorem isReadableText_literalForm {width : Nat} {text : List Char} (readable : IsReadableText text)
    (lineStart : Bool) : IsReadableText (literalForm width lineStart text) := by
  induction text generalizing lineStart with
  | nil =>
      cases lineStart with
      | true => exact List.forall_mem_nil _
      | false => exact List.forall_mem_singleton.mpr (by decide)
  | cons c others inductionHypothesis =>
      obtain ⟨first, more⟩ := List.forall_mem_cons.mp readable
      rw [literalForm]
      split
      case isTrue => exact List.forall_mem_cons.mpr ⟨first, inductionHypothesis more true⟩
      case isFalse =>
        rw [isReadableText_append]
        refine ⟨?_, List.forall_mem_cons.mpr ⟨first, inductionHypothesis more false⟩⟩
        split
        · exact isReadableText_margin width
        · exact List.forall_mem_nil _

theorem isReadableText_singleQuotedForm {width : Nat} {text : List Char}
    (readable : IsReadableText text) (lineStart : Bool) :
    IsReadableText (singleQuotedForm width lineStart text) := by
  have start : ∀ lineStart : Bool, IsReadableText (if lineStart then margin width else []) := by
    intro lineStart
    split
    · exact isReadableText_margin width
    · exact List.forall_mem_nil _
  induction text generalizing lineStart with
  | nil =>
      rw [singleQuotedForm, isReadableText_append]
      exact ⟨start lineStart, List.forall_mem_singleton.mpr (by decide)⟩
  | cons c others inductionHypothesis =>
      obtain ⟨first, more⟩ := List.forall_mem_cons.mp readable
      rw [singleQuotedForm]
      split
      case isTrue => exact List.forall_mem_cons.mpr ⟨first, inductionHypothesis more true⟩
      case isFalse =>
        rw [isReadableText_append, isReadableText_append]
        refine ⟨⟨start lineStart, ?_⟩, inductionHypothesis more false⟩
        split <;> simp [IsReadableText, first]

theorem isReadableText_hexDigitsWith (value : Nat) :
    IsReadableText (Text.hexDigitsWith Text.hexDigitUpper value) := by
  have digit : ∀ value < 16, isReadable (Text.hexDigitUpper value) = true := by decide
  induction value using Nat.strongRecOn with
  | _ value inductionHypothesis =>
      rw [Text.hexDigitsWith]
      split
      case isTrue small => simpa [IsReadableText] using digit value small
      case isFalse large =>
        rw [isReadableText_append]
        refine ⟨inductionHypothesis (value / 16) (by omega), ?_⟩
        simpa [IsReadableText] using digit (value % 16) (Nat.mod_lt _ (by decide))

theorem isReadableText_hexUpperPadded (width value : Nat) :
    IsReadableText (Text.hexUpperPadded width value) := by
  rw [Text.hexUpperPadded, Text.padZeros, isReadableText_append]
  refine ⟨fun c member => ?_, isReadableText_hexDigitsWith value⟩
  rw [List.eq_of_mem_replicate member]
  decide

theorem isReadableText_escape {mark : Char} {digits : List Char} (named : isReadable mark = true)
    (readable : IsReadableText digits) : IsReadableText ('\\' :: mark :: digits) :=
  List.forall_mem_cons.mpr ⟨by decide, List.forall_mem_cons.mpr ⟨named, readable⟩⟩

theorem isReadableText_codeEscape (c : Char) : IsReadableText (codeEscape c) := by
  unfold codeEscape
  dsimp only
  split
  · exact isReadableText_escape (by decide) (isReadableText_hexUpperPadded 2 c.toNat)
  · split
    · exact isReadableText_escape (by decide) (isReadableText_hexUpperPadded 4 c.toNat)
    · exact isReadableText_escape (by decide) (isReadableText_hexUpperPadded 8 c.toNat)

/-- An escape can be read, whatever character it stands for. -/
theorem isReadableText_escapeForm (c : Char) : IsReadableText (escapeForm c) := by
  unfold escapeForm
  split
  case h_10 quote =>
    exact isReadableText_escape (by simp [isReadable, quote]) (List.forall_mem_nil _)
  case h_11 backslash =>
    exact isReadableText_escape (by simp [isReadable, backslash]) (List.forall_mem_nil _)
  case h_16 => exact isReadableText_codeEscape c
  all_goals exact isReadableText_escape (by decide) (List.forall_mem_nil _)

theorem isReadableText_doubleQuotedForm (text : List Char) :
    IsReadableText (doubleQuotedForm text) := by
  rw [doubleQuotedForm, isReadableText_append]
  constructor
  · rw [IsReadableText, List.forall_mem_flatMap]
    intro c member
    split
    case isTrue => exact isReadableText_escapeForm c
    case isFalse plain =>
      simp only [needsEscape, Bool.or_eq_true, Bool.not_eq_true', not_or, Bool.not_eq_false] at plain
      exact isReadableText_of_isPrintable (by simpa using plain.1.1.1)
  · exact List.forall_mem_singleton.mpr (by decide)

theorem isReadableText_literalHeader (text : List Char) : IsReadableText (literalHeader text) := by
  have header : ∀ (given : Bool) (chomping : Chomping),
      ('|' :: ((if given then ['2'] else []) ++ chomping.sign ++ ['\n'])).all isReadable = true := by
    intro given chomping
    cases given <;> cases chomping <;> decide
  obtain ⟨chomping, sign⟩ := exists_chomping text
  rw [literalHeader, decimal_indentStep, sign]
  exact List.all_eq_true.mp (header (hidesIndent text) chomping)

/-- The form of a text can be read. -/
theorem isReadableText_scalarForm (width : Nat) (text : String) :
    IsReadableText (scalarForm width text) := by
  have hasStyle := hasStyle_styleOf text
  have lineEnd : IsReadableText ['\n'] := List.forall_mem_singleton.mpr (by decide)
  unfold scalarForm
  dsimp only
  generalize styleOf text = style at hasStyle ⊢
  cases hasStyle with
  | literal printable notEmpty =>
      exact isReadableText_append.mpr ⟨isReadableText_literalHeader _,
        isReadableText_literalForm (isReadableText_of_isPrintable printable) true⟩
  | plain fits notEmpty =>
      simp only [fitsPlain, Bool.and_eq_true, List.all_eq_true] at fits
      exact isReadableText_append.mpr
        ⟨isReadableText_of_isPrintable fun c member => (fits.1.1.1.1 c member).1, lineEnd⟩
  | singleQuoted printable noFeed noBlankEnd noBlankStart =>
      exact List.forall_mem_cons.mpr ⟨by decide, isReadableText_append.mpr
        ⟨isReadableText_singleQuotedForm (isReadableText_of_isPrintable printable) false, lineEnd⟩⟩
  | doubleQuoted =>
      exact List.forall_mem_cons.mpr ⟨by decide, isReadableText_append.mpr
        ⟨isReadableText_doubleQuotedForm _, lineEnd⟩⟩

/-! ## Entries -/

/-- A value as it is written. -/
structure WrittenValue where
  /-- The characters after the space that follows the colon. -/
  form : List Char
  /-- The text that is meant. -/
  text : List Char
  /-- The style. -/
  style : Style

/-- An entry as it is written. -/
structure WrittenEntry where
  /-- The width of the margin. -/
  width : Nat
  /-- The name. -/
  name : List Char
  /-- The value on the same line; none if entries that are indented deeper follow. -/
  value : Option WrittenValue

namespace WrittenEntry

/-- What follows the colon of an entry. -/
def ending (entry : WrittenEntry) : List Char :=
  match entry.value with
  | none => ['\n']
  | some value => ' ' :: value.form

/-- The characters of an entry after its margin. -/
def body (entry : WrittenEntry) : List Char :=
  entry.name ++ ':' :: entry.ending

/-- The characters of an entry. -/
def chars (entry : WrittenEntry) : List Char :=
  margin entry.width ++ entry.body

/-- The token of the value of an entry. -/
def valueTokens (entry : WrittenEntry) : List Token :=
  entry.value.toList.map fun value => .scalar (String.ofList value.text) value.style

/-- The number of steps that the reader takes over an entry. -/
def steps (entry : WrittenEntry) : Nat :=
  2 + entry.value.toList.length

/-- Whether an entry is read as it is meant. -/
structure IsSound (entry : WrittenEntry) : Prop where
  /-- The name can be a key. -/
  named : IsEntryName entry.name
  /-- The value is read as its text. -/
  valued : ∀ value ∈ entry.value, IsRead entry.width value.form value.text value.style
  /-- The characters of the value can be read. -/
  readable : ∀ value ∈ entry.value, IsReadableText value.form

/-- Whether the entry after another one may stand at its margin: it is not indented deeper than one
that has a value. -/
def Precedes (entry : WrittenEntry) (outer : Nat) : Prop :=
  entry.value.isSome = true → outer ≤ entry.width

variable {entry : WrittenEntry} {blocks : List Nat} {tokens : List Token} {outer : Nat}
  {following : List Char}

/-- The reader goes from one entry to the next. -/
theorem leads (sound : entry.IsSound) (precedes : entry.Precedes outer)
    (follows : StartsEntry following) :
    Leads entry.steps
      (AtEntry blocks entry.width (entry.body ++ (margin outer ++ following)) tokens)
      (AtEntry (openedBlocks entry.width blocks) outer following
        (tokens ++ (keyTokens entry.width blocks entry.name ++ entry.valueTokens))) := by
  obtain ⟨width, name, value⟩ := entry
  cases value with
  | none =>
      have overKey : Leads 2 (AtEntry blocks width (name ++ ':' :: '\n' :: (margin outer ++ following))
        tokens) _ := leads_key sound.named rfl
      have toNext := overKey.mono fun state atValue => atValue.atEntry follows
      simpa [body, ending, steps, valueTokens] using toNext
  | some value =>
      have overKey : Leads 2 (AtEntry blocks width
        (name ++ ':' :: ' ' :: (value.form ++ (margin outer ++ following))) tokens) _ :=
          leads_key sound.named rfl
      have toNext := overKey.trans (sound.valued value rfl _ outer following _ (precedes rfl) follows)
      simpa [body, ending, steps, valueTokens] using toNext

theorem IsSound.startsEntry (sound : entry.IsSound) (rest : List Char) : StartsEntry (entry.body ++ rest) := by
  rw [body, List.append_assoc]
  exact sound.named.startsEntry _

end WrittenEntry

/-! ## Runs over entries -/

/-- The width of the margin before the first entry. -/
def firstWidth : List WrittenEntry → Nat
  | [] => 0
  | entry :: _ => entry.width

/-- The characters of entries after the margin of the first one. -/
def entriesBody : List WrittenEntry → List Char
  | [] => []
  | entry :: more => entry.body ++ more.flatMap WrittenEntry.chars

/-- Whether entries are read as they are meant: each of them is, and none is indented deeper than one
before it that has a value. -/
inductive AreSound : List WrittenEntry → Prop
  | nil : AreSound []
  | cons {entry : WrittenEntry} {more : List WrittenEntry} (sound : entry.IsSound)
      (precedes : entry.Precedes (firstWidth more)) (others : AreSound more) :
      AreSound (entry :: more)

/-- The tokens that close all blocks and end the text. -/
def closingTokens (blocks : List Nat) : List Token :=
  blocks.map (fun _ => .blockEnd) ++ [.endOfText]

/-- The tokens of entries inside open blocks up to the end of the text. -/
def entriesTokens (blocks : List Nat) : List WrittenEntry → List Token
  | [] => closingTokens blocks
  | entry :: more =>
    keyTokens entry.width blocks entry.name ++ entry.valueTokens ++
      entriesTokens (openedBlocks entry.width blocks) more

/-- The number of steps that the reader takes over entries. -/
def entriesSteps : List WrittenEntry → Nat
  | [] => 0
  | entry :: more => entry.steps + entriesSteps more

theorem chars_eq (entries : List WrittenEntry) :
    entries.flatMap WrittenEntry.chars = margin (firstWidth entries) ++ entriesBody entries := by
  cases entries with
  | nil => rfl
  | cons entry more =>
      rw [List.flatMap_cons, WrittenEntry.chars, List.append_assoc]
      rfl

variable {entries : List WrittenEntry} {blocks : List Nat} {tokens : List Token}

theorem AreSound.startsEntry (sound : AreSound entries) : StartsEntry (entriesBody entries) := by
  cases sound with
  | nil => exact nofun
  | cons sound => exact sound.startsEntry _

/-- The reader goes over all entries, and its tokens are those of the entries. -/
theorem leads_entries (sound : AreSound entries) (blocks : List Nat) (tokens : List Token) :
    ∃ last lastTokens, lastTokens ++ closingTokens last = tokens ++ entriesTokens blocks entries ∧
      Leads (entriesSteps entries)
        (AtEntry blocks (firstWidth entries) (entriesBody entries) tokens)
        (AtEntry last 0 [] lastTokens) := by
  induction sound generalizing blocks tokens with
  | nil =>
      refine ⟨blocks, tokens, rfl, fun state holds => ⟨state, holds, fun fuel => ?_⟩⟩
      rw [entriesSteps, Nat.zero_add]
  | @cons entry more sound precedes others inductionHypothesis =>
      obtain ⟨last, lastTokens, same, overOthers⟩ := inductionHypothesis
        (openedBlocks entry.width blocks)
        (tokens ++ (keyTokens entry.width blocks entry.name ++ entry.valueTokens))
      have overEntry : Leads entry.steps (AtEntry blocks entry.width _ tokens) _ :=
        WrittenEntry.leads sound precedes others.startsEntry
      rw [← chars_eq] at overEntry
      exact ⟨last, lastTokens, by rw [same, entriesTokens, List.append_assoc],
        overEntry.trans overOthers⟩

/-- The blocks that are closed at a column and those that are left are all. -/
theorem endTokens_append (width : Nat) (blocks : List Nat) :
    endTokens width blocks ++ closingTokens (keptBlocks width blocks) = closingTokens blocks := by
  rw [endTokens, closingTokens, keptBlocks, ← List.append_assoc, ← List.map_append,
    List.takeWhile_append_dropWhile, closingTokens]

/-- At the end of the text all blocks are closed, and nothing is pending. -/
theorem run_end {state : TokenState} (atEnd : AtEntry blocks 0 [] tokens state) (fuel : Nat) :
    (TokenState.run none (fuel + 1) state).1.settled = tokens ++ closingTokens blocks := by
  obtain ⟨place, column, space⟩ := atEnd.atMargin
  have stepped : state.step? = some {
      place, rest := [], keyAllowed := false, ended := true
      tokens := tokens ++ closingTokens blocks } := by
    rw [atEnd.toStanding.step?_eq space nofun, ← endTokens_append place.column blocks]
    simp [TokenState.readToken?, tokenState, TokenState.readEnd?, column, TokenState.closeAllBlocks,
      TokenState.inFlow, TokenState.dropKey?, TokenState.pendingKey, TokenState.setPendingKey,
      TokenState.push, TokenState.dropStale?, TokenState.refresh?, closingTokens]
  rw [TokenState.run, stepped]
  rfl

/-! ## Texts of entries -/

theorem unreadableFrom?_eq_none {text : List Char} (readable : IsReadableText text)
    (start offset : Nat) : unreadableFrom? start offset text = none := by
  induction text generalizing start offset with
  | nil => rfl
  | cons c others inductionHypothesis =>
      obtain ⟨first, more⟩ := List.forall_mem_cons.mp readable
      rw [unreadableFrom?]
      simp only [first, if_true]
      exact inductionHypothesis more _ _

/-- An entry is written in at least as many characters as the reader takes steps over it. -/
theorem steps_le_length {entry : WrittenEntry} (sound : entry.IsSound) :
    entry.steps ≤ entry.chars.length := by
  obtain ⟨c, isHead, -⟩ := sound.named.starts
  have named : 0 < entry.name.length := by
    cases spelled : entry.name with
    | nil => rw [spelled] at isHead; cases isHead
    | cons => exact Nat.succ_pos _
  rw [WrittenEntry.chars, WrittenEntry.body, WrittenEntry.ending, WrittenEntry.steps]
  cases entry.value with
  | none => simp; omega
  | some value => simp; omega

theorem entriesSteps_le_length (sound : AreSound entries) :
    entriesSteps entries ≤ (entries.flatMap WrittenEntry.chars).length := by
  induction sound with
  | nil => exact Nat.zero_le _
  | cons sound precedes others inductionHypothesis =>
      rw [List.flatMap_cons, List.length_append]
      exact Nat.add_le_add (steps_le_length sound) inductionHypothesis

theorem isReadableText_chars {entry : WrittenEntry} (sound : entry.IsSound) :
    IsReadableText entry.chars := by
  have named : IsReadableText entry.name :=
    isReadableText_of_isPrintable fun c member => (sound.named.isPrintedLine c member).1
  have ending : IsReadableText entry.ending := by
    rw [WrittenEntry.ending]
    split
    case h_1 => exact List.forall_mem_singleton.mpr (by decide)
    case h_2 value isValue => exact List.forall_mem_cons.mpr ⟨by decide, sound.readable value isValue⟩
  exact isReadableText_append.mpr ⟨isReadableText_margin entry.width,
    isReadableText_append.mpr ⟨named, List.forall_mem_cons.mpr ⟨by decide, ending⟩⟩⟩

theorem AreSound.isReadableText (sound : AreSound entries) :
    IsReadableText (entries.flatMap WrittenEntry.chars) := by
  induction sound with
  | nil => exact List.forall_mem_nil _
  | cons sound precedes others inductionHypothesis =>
      rw [List.flatMap_cons, isReadableText_append]
      exact ⟨isReadableText_chars sound, inductionHypothesis⟩

/-- The tokens of written entries. -/
theorem tokensOf_entries (sound : AreSound entries) :
    tokensOf (entries.flatMap WrittenEntry.chars) = entriesTokens [] entries := by
  obtain ⟨last, lastTokens, same, overAll⟩ := leads_entries sound [] []
  have enough := entriesSteps_le_length sound
  rw [tokensOf, unreadableFrom?_eq_none sound.isReadableText]
  generalize spelled : entries.flatMap WrittenEntry.chars = text at *
  have start : AtEntry [] (firstWidth entries) (entriesBody entries) [] { rest := text } := by
    refine ⟨⟨rfl, rfl, rfl, rfl, rfl⟩, ?_⟩
    rw [← spelled, chars_eq]
    obtain ⟨place, column, skips⟩ := skipSpace_margin (firstWidth entries) true {}
    exact ⟨place, by rw [column]; exact Nat.zero_add _, by rw [skips, skipSpace_entry sound.startsEntry]⟩
  obtain ⟨state, atEnd, runs⟩ := overAll _ start
  obtain ⟨left, fuel⟩ : ∃ left, text.length + 1 = entriesSteps entries + (left + 1) :=
    ⟨text.length - entriesSteps entries, by omega⟩
  rw [fuel, runs, run_end atEnd, same]
  rfl

end Sbom.Yaml
