import Sbom.Proofs.Yaml.Escapes

/-!
# Quoted scalars

A text between quotes of either kind is read as the text it was made from. Between double quotes a
character stands for itself or is read from its escape. Between single quotes a line break stands for
itself as long as it is none that folding turns into a space, and the margin after it does not count.
-/

namespace Sbom.Yaml

variable {c : Char}

/-! ## Gaps -/

namespace Gap

variable {gap : Gap}

@[simp] theorem text_empty : empty.text = [] := rfl

@[simp] theorem crossesLine_empty : empty.crossesLine = false := rfl

@[simp] theorem crossesLine_addBlank : (gap.addBlank c).crossesLine = gap.crossesLine := by
  cases gap <;> rfl

/-- A blank between words of one line is kept. -/
theorem text_addBlank (sameLine : gap.crossesLine = false) :
    (gap.addBlank c).text = gap.text ++ [c] := by
  cases gap with
  | empty => rfl
  | blanks => rfl
  | breaks => cases sameLine

/-- A blank in the margin of a line does not count. -/
theorem addBlank_of_crossesLine (crosses : gap.crossesLine = true) : gap.addBlank c = gap := by
  cases gap with
  | empty => cases crosses
  | blanks => cases crosses
  | breaks => rfl

/-- Whether a gap reads as the line breaks in it: none of them is folded, and there are no blanks
that a line break would drop. -/
inductive Unfolded : Gap → Prop
  | empty : Unfolded .empty
  | breaks {first : Char} (kept : first ≠ '\n') (further : List Char) :
      Unfolded (.breaks (some first) further)

theorem Unfolded.addBreak (unfolded : gap.Unfolded) (kept : c ≠ '\n') :
    (gap.addBreak c).Unfolded ∧ (gap.addBreak c).text = gap.text ++ [c] := by
  cases unfolded with
  | empty => exact ⟨.breaks kept [], by simp [Gap.addBreak, Gap.text, kept]⟩
  | breaks keptFirst further =>
      exact ⟨.breaks keptFirst _, by simp [Gap.addBreak, Gap.text, keptFirst]⟩

end Gap

/-! ## Double quotes -/

/-- Whether a text is read as a character: what follows it is read from a later place of the line,
and the character is put in front. -/
def ReadsAs (form : List Char) (c : Char) : Prop :=
  ∀ (gap : Gap) (place : Position) (rest : List Char), ∃ next, place.column < next.column ∧
    readDoubleQuoted gap place (form ++ rest) =
      (readDoubleQuoted .empty next rest).map fun read => read.prepend (gap.text ++ [c])

theorem Position.column_lt_advance (place : Position) {count : Nat} (positive : 0 < count) :
    place.column < (place.advance count).column :=
  Nat.lt_add_of_pos_right positive

section Digits

variable {digits : List Char}

theorem readsAs_twoDigits (meant : hexChar? digits = some c) (two : digits.length = 2) :
    ReadsAs ('\\' :: 'x' :: digits) c := by
  intro gap place rest
  refine ⟨place.advance 4, place.column_lt_advance (by decide), ?_⟩
  match digits, two with
  | [_, _], _ => simp [readDoubleQuoted, meant]

theorem readsAs_fourDigits (meant : hexChar? digits = some c) (four : digits.length = 4) :
    ReadsAs ('\\' :: 'u' :: digits) c := by
  intro gap place rest
  refine ⟨place.advance 6, place.column_lt_advance (by decide), ?_⟩
  match digits, four with
  | [_, _, _, _], _ => simp [readDoubleQuoted, meant]

theorem readsAs_eightDigits (meant : hexChar? digits = some c) (eight : digits.length = 8) :
    ReadsAs ('\\' :: 'U' :: digits) c := by
  intro gap place rest
  refine ⟨place.advance 10, place.column_lt_advance (by decide), ?_⟩
  match digits, eight with
  | [_, _, _, _, _, _, _, _], _ => simp [readDoubleQuoted, meant]

end Digits

/-- A character is read from its code point, whichever number of digits that takes. -/
theorem readsAs_codeEscape (c : Char) : ReadsAs (codeEscape c) c := by
  have meant : ∀ width, hexChar? (Text.hexUpperPadded width c.toNat) = some c :=
    fun width => hexChar?_hexUpperPadded width c
  have limit : c.toNat < 0x110000 := by
    have valid : c.toNat < 0xD800 ∨ 0xDFFF < c.toNat ∧ c.toNat < 0x110000 := c.valid
    omega
  unfold codeEscape
  dsimp only
  split
  case isTrue short =>
    exact readsAs_twoDigits (meant 2) (length_hexUpperPadded (by decide) (by omega))
  case isFalse =>
    split
    case isTrue short =>
      exact readsAs_fourDigits (meant 4) (length_hexUpperPadded (by decide) (by omega))
    case isFalse =>
      exact readsAs_eightDigits (meant 8) (length_hexUpperPadded (by decide) (by omega))

/-- The name of an escape is no line break and does not ask for digits. -/
theorem namedEscape?_apart {mark : Char} (names : namedEscape? mark = some c) :
    isBreak mark = false ∧ mark ≠ '\r' ∧ mark ≠ 'x' ∧ mark ≠ 'u' ∧ mark ≠ 'U' := by
  constructor
  · cases same : isBreak mark with
    | false => rfl
    | true =>
        simp only [isBreak, Bool.or_eq_true, beq_iff_eq] at same
        rcases same with (((rfl | rfl) | code) | code) | code
        all_goals simp_all [namedEscape?]
  · refine ⟨?_, ?_, ?_, ?_⟩
    all_goals
      rintro rfl
      simp [namedEscape?] at names

/-- A named escape is read as the character that it names. -/
theorem readsAs_named {mark : Char} (names : namedEscape? mark = some c) :
    ReadsAs ['\\', mark] c := by
  intro gap place rest
  obtain ⟨notBreak, notReturn, notDigits⟩ := namedEscape?_apart names
  refine ⟨place.advance 2, place.column_lt_advance (by decide), ?_⟩
  simp [readDoubleQuoted, notReturn, notDigits, notBreak, names]

/-- A character is read from its escape. -/
theorem readsAs_escapeForm (c : Char) : ReadsAs (escapeForm c) c := by
  have char : ∀ {d : Char}, c.toNat = d.toNat → d = c := fun same => (Char.toNat_inj.mp same).symm
  unfold escapeForm
  split
  case h_1 code => cases char (d := '\x00') code; exact readsAs_named rfl
  case h_2 code => cases char (d := '\x07') code; exact readsAs_named rfl
  case h_3 code => cases char (d := '\x08') code; exact readsAs_named rfl
  case h_4 code => cases char (d := '\t') code; exact readsAs_named rfl
  case h_5 code => cases char (d := '\n') code; exact readsAs_named rfl
  case h_6 code => cases char (d := '\x0b') code; exact readsAs_named rfl
  case h_7 code => cases char (d := '\x0c') code; exact readsAs_named rfl
  case h_8 code => cases char (d := '\r') code; exact readsAs_named rfl
  case h_9 code => cases char (d := '\x1b') code; exact readsAs_named rfl
  case h_10 code => cases char (d := '\x22') code; exact readsAs_named rfl
  case h_11 code => cases char (d := '\\') code; exact readsAs_named rfl
  case h_12 code => cases char (d := '\u0085') code; exact readsAs_named rfl
  case h_13 code => cases char (d := '\u00a0') code; exact readsAs_named rfl
  case h_14 code => cases char (d := '\u2028') code; exact readsAs_named rfl
  case h_15 code => cases char (d := '\u2029') code; exact readsAs_named rfl
  case h_16 => exact readsAs_codeEscape c

/-- The reader goes on at a character that starts no escape and ends no scalar. -/
theorem readDoubleQuoted_cons (gap : Gap) (place : Position) (rest : List Char)
    (printable : isPrintable c = true) (notQuote : c ≠ '\x22') (notBackslash : c ≠ '\\')
    (notBreak : isBreak c = false) (inLine : 0 < place.column) :
    readDoubleQuoted gap place (c :: rest) =
      if isSpace c then readDoubleQuoted (gap.addBlank c) (place.next c) rest
      else (readDoubleQuoted .empty (place.next c) rest).map
        fun read => read.prepend (gap.text ++ [c]) := by
  have inside : breaksQuoted place (c :: rest) = false := by
    simp [breaksQuoted, Nat.ne_of_gt inLine]
  have notReturn := ne_return_of_isPrintable printable
  simp [readDoubleQuoted, notBackslash, notReturn, notBreak, inside,
    isBlank_eq_isSpace printable]

/-- A text between double quotes is read back, whatever characters it has. -/
theorem readDoubleQuoted_form (text : List Char) (gap : Gap) (place : Position) (rest : List Char)
    (sameLine : gap.crossesLine = false) (inLine : 0 < place.column) :
    ∃ next, readDoubleQuoted gap place (doubleQuotedForm text ++ rest) =
      some ⟨gap.text ++ text, next, rest, false⟩ := by
  induction text generalizing gap place with
  | nil => exact ⟨place.advance 1, by simp [doubleQuotedForm, readDoubleQuoted]⟩
  | cons c others inductionHypothesis =>
      have unfolded : doubleQuotedForm (c :: others) ++ rest =
          (if needsEscape c then escapeForm c else [c]) ++ (doubleQuotedForm others ++ rest) := by
        simp [doubleQuotedForm]
      rw [unfolded]
      split
      case isTrue =>
        obtain ⟨next, later, reads⟩ := readsAs_escapeForm c gap place (doubleQuotedForm others ++ rest)
        obtain ⟨last, readsOthers⟩ := inductionHypothesis .empty next rfl (by omega)
        exact ⟨last, by simp [reads, readsOthers, ScalarRead.prepend]⟩
      case isFalse plain =>
        simp only [needsEscape, Bool.or_eq_true, Bool.not_eq_true', beq_iff_eq, not_or,
          Bool.not_eq_false, Bool.not_eq_true] at plain
        obtain ⟨⟨⟨printable, notBreak⟩, notQuote⟩, notBackslash⟩ := plain
        rw [List.singleton_append, readDoubleQuoted_cons gap place _ printable notQuote notBackslash
          notBreak inLine]
        split
        case isTrue =>
          obtain ⟨last, readsOthers⟩ := inductionHypothesis (gap.addBlank c) (place.next c)
            (by rw [Gap.crossesLine_addBlank, sameLine]) (Nat.succ_pos _)
          exact ⟨last, by simp [readsOthers, Gap.text_addBlank sameLine]⟩
        case isFalse =>
          obtain ⟨last, readsOthers⟩ := inductionHypothesis .empty (place.next c) rfl
            (Nat.succ_pos _)
          exact ⟨last, by simp [readsOthers, ScalarRead.prepend]⟩

/-! ## Single quotes -/

/-- The reader goes on at a character that is no quote. -/
theorem readSingleQuoted_cons (gap : Gap) (place : Position) (rest : List Char)
    (printable : isPrintable c = true) (notQuote : c ≠ '\x27') :
    readSingleQuoted gap place (c :: rest) =
      if isBreak c then
        readSingleQuoted (gap.addBreak c) (place.nextLine c.utf8Size) rest
      else if isSpace c then readSingleQuoted (gap.addBlank c) (place.next c) rest
      else if breaksQuoted place (c :: rest) then none
      else
        (readSingleQuoted .empty (place.next c) rest).map
          fun read => read.prepend (gap.text ++ [c]) := by
  have notReturn := ne_return_of_isPrintable printable
  rw [readSingleQuoted, isBlank_eq_isSpace printable]
  · split
    case isTrue isLineBreak => rw [meantBreak_of_isPrintable printable isLineBreak]
    case isFalse => rfl
  all_goals grind

/-- The margin of a line is passed. -/
theorem readSingleQuoted_margin {gap : Gap} (crosses : gap.crossesLine = true) (width : Nat)
    (place : Position) :
    ∃ next, next.column = place.column + width ∧ ∀ rest,
      readSingleQuoted gap place (margin width ++ rest) = readSingleQuoted gap next rest := by
  induction width generalizing place with
  | zero => exact ⟨place, rfl, fun _ => rfl⟩
  | succ width inductionHypothesis =>
      obtain ⟨next, column, passes⟩ := inductionHypothesis (place.next ' ')
      refine ⟨next, by rw [column]; simp only [Position.next]; omega, fun rest => ?_⟩
      rw [margin, List.replicate_succ, List.cons_append,
        readSingleQuoted_cons gap place _ (by decide) (by decide), if_neg (by decide),
        if_pos (by decide), Gap.addBlank_of_crossesLine crosses]
      exact passes rest

/-- A character that is no blank and no line break is read from its form: itself, or two quotes for
one. -/
theorem readSingleQuoted_char (gap : Gap) {place : Position} (rest : List Char)
    (printable : isPrintable c = true) (notBreak : isBreak c = false) (notSpace : isSpace c = false)
    (inLine : 0 < place.column) :
    ∃ next, 0 < next.column ∧
      readSingleQuoted gap place ((if c == '\x27' then [c, c] else [c]) ++ rest) =
        (readSingleQuoted .empty next rest).map fun read => read.prepend (gap.text ++ [c]) := by
  split
  case isTrue quote =>
    cases beq_iff_eq.mp quote
    exact ⟨place.advance 2, Nat.lt_of_lt_of_le inLine (Nat.le_add_right _ _),
      by simp [readSingleQuoted]⟩
  case isFalse notQuote =>
    have inside : breaksQuoted place (c :: rest) = false := by
      simp [breaksQuoted, Nat.ne_of_gt inLine]
    refine ⟨place.next c, Nat.succ_pos _, ?_⟩
    rw [List.singleton_append, readSingleQuoted_cons gap place rest printable (by simpa using notQuote)]
    simp [notBreak, notSpace, inside]

theorem head_of_hasPair {first second : Char → Bool} {others : List Char}
    (none : hasPair first second (c :: others) = false) (starts : first c = true) :
    ∀ d ∈ others.head?, second d = false := by
  cases others with
  | nil => simp
  | cons d rest => simp_all [hasPair]

theorem hasPair_tail {first second : Char → Bool} {others : List Char}
    (none : hasPair first second (c :: others) = false) : hasPair first second others = false := by
  cases others with
  | nil => rfl
  | cons d rest => simp_all [hasPair]

/-- Where a reader may stand before a text between single quotes: at the start of a line, after line
breaks that are kept, or inside a line, after blanks that no line break drops. -/
inductive ReadyFor (text : List Char) (gap : Gap) (place : Position) : Prop
  | lineStart (crosses : gap.crossesLine = true) (unfolded : gap.Unfolded)
      (noSpace : ∀ c ∈ text.head?, isSpace c = false)
  | inLine (sameLine : gap.crossesLine = false) (positive : 0 < place.column)
      (kept : gap = .empty ∨ ∀ c ∈ text.head?, isBreak c = false)

section SingleQuoted

variable {others : List Char} {gap : Gap} {place : Position} (width : Nat) (rest : List Char)

/-- Whether a reader goes from one place to another over the form of a character, so that the
characters before the gap and in it grow by that character. -/
def PassesChar (c : Char) (others : List Char) (gap : Gap) (place : Position) (nextGap : Gap)
    (next : Position) : Prop :=
  ∃ before, before ++ nextGap.text = gap.text ++ [c] ∧
    readSingleQuoted gap place (singleQuotedForm width gap.crossesLine (c :: others) ++ rest) =
      (readSingleQuoted nextGap next
        (singleQuotedForm width nextGap.crossesLine others ++ rest)).map
          fun read => read.prepend before

theorem ReadyFor.passes_break (ready : ReadyFor (c :: others) gap place)
    (printable : isPrintable c = true) (notFeed : c ≠ '\n') (isLineBreak : isBreak c = true)
    (noBlankStart : hasPair isBreak isSpace (c :: others) = false) :
    ∃ nextGap next, ReadyFor others nextGap next ∧
      PassesChar width rest c others gap place nextGap next := by
  have unfolded : gap.Unfolded := by
    rcases ready with ⟨-, unfolded, -⟩ | ⟨-, -, rfl | notBreak⟩
    · exact unfolded
    · exact .empty
    · exact absurd isLineBreak (by simp [notBreak c rfl])
  obtain ⟨stillUnfolded, asText⟩ := unfolded.addBreak notFeed
  have crosses : (gap.addBreak c).crossesLine = true := by cases gap <;> rfl
  have notQuote : c ≠ '\x27' := by
    rintro rfl
    exact absurd isLineBreak (by decide)
  refine ⟨gap.addBreak c, place.nextLine c.utf8Size,
    .lineStart crosses stillUnfolded (head_of_hasPair noBlankStart isLineBreak), [], asText, ?_⟩
  rw [singleQuotedForm, if_pos isLineBreak, List.cons_append,
    readSingleQuoted_cons gap place _ printable notQuote, if_pos isLineBreak, crosses]
  exact Option.map_id'.symm

theorem ReadyFor.passes_space (ready : ReadyFor (c :: others) gap place)
    (printable : isPrintable c = true) (space : isSpace c = true)
    (noBlankEnd : hasPair isSpace isBreak (c :: others) = false) :
    ∃ nextGap next, ReadyFor others nextGap next ∧
      PassesChar width rest c others gap place nextGap next := by
  rcases ready with ⟨-, -, noSpace⟩ | ⟨sameLine, -, -⟩
  · exact absurd space (by simp [noSpace c rfl])
  · have stays : (gap.addBlank c).crossesLine = false := by rw [Gap.crossesLine_addBlank, sameLine]
    have notBreak := isBreak_of_isSpace space
    have notQuote : c ≠ '\x27' := by
      rintro rfl
      exact absurd space (by decide)
    refine ⟨gap.addBlank c, place.next c,
      .inLine stays (Nat.succ_pos _) (.inr (head_of_hasPair noBlankEnd space)), [],
      Gap.text_addBlank sameLine, ?_⟩
    rw [stays, sameLine, singleQuotedForm, notBreak]
    simp only [beq_iff_eq, notQuote, if_false, Bool.false_eq_true, List.nil_append,
      List.cons_append]
    rw [readSingleQuoted_cons gap place _ printable notQuote, notBreak, space]
    exact Option.map_id'.symm

theorem ReadyFor.passes_word (indented : 0 < width) (ready : ReadyFor (c :: others) gap place)
    (printable : isPrintable c = true) (notBreak : isBreak c = false) (notSpace : isSpace c = false) :
    ∃ nextGap next, ReadyFor others nextGap next ∧
      PassesChar width rest c others gap place nextGap next := by
  have atWord : ∃ start, 0 < start.column ∧ ∀ text, readSingleQuoted gap place
      ((if gap.crossesLine then margin width else []) ++ text) = readSingleQuoted gap start text := by
    cases crosses : gap.crossesLine with
    | true =>
        obtain ⟨start, column, skips⟩ := readSingleQuoted_margin crosses width place
        exact ⟨start, by omega, skips⟩
    | false =>
        rcases ready with ⟨crossed, -, -⟩ | ⟨-, positive, -⟩
        · exact absurd (crosses.symm.trans crossed) (by decide)
        · exact ⟨place, positive, fun text => rfl⟩
  obtain ⟨start, inLine, skips⟩ := atWord
  obtain ⟨next, later, reads⟩ := readSingleQuoted_char gap
    (singleQuotedForm width false others ++ rest) printable notBreak notSpace inLine
  refine ⟨.empty, next, .inLine rfl later (.inl rfl), gap.text ++ [c], by simp, ?_⟩
  rw [singleQuotedForm, notBreak]
  simp only [Bool.false_eq_true, if_false, List.append_assoc]
  rw [skips, reads, Gap.crossesLine_empty]

end SingleQuoted

/-- A text of printed characters without line feeds is read back from between single quotes, if no
line in it starts or ends with a space. -/
theorem readSingleQuoted_form {width : Nat} (indented : 0 < width) (text rest : List Char)
    (printable : ∀ c ∈ text, isPrintable c = true) (noFeed : '\n' ∉ text)
    (noBlankEnd : hasPair isSpace isBreak text = false)
    (noBlankStart : hasPair isBreak isSpace text = false) (gap : Gap) (place : Position)
    (ready : ReadyFor text gap place) :
    ∃ next, readSingleQuoted gap place
        (singleQuotedForm width gap.crossesLine text ++ '\n' :: rest) =
      some ⟨gap.text ++ text, next, '\n' :: rest, false⟩ := by
  induction text generalizing gap place with
  | nil =>
      cases crosses : gap.crossesLine with
      | false => exact ⟨place.advance 1, by simp [singleQuotedForm, readSingleQuoted]⟩
      | true =>
          obtain ⟨next, -, skips⟩ := readSingleQuoted_margin crosses width place
          exact ⟨next.advance 1, by simp [singleQuotedForm, skips, readSingleQuoted]⟩
  | cons c others inductionHypothesis =>
      rw [List.forall_mem_cons] at printable
      rw [List.mem_cons, not_or] at noFeed
      have passes : ∃ nextGap next, ReadyFor others nextGap next ∧
          PassesChar width ('\n' :: rest) c others gap place nextGap next := by
        cases isLineBreak : isBreak c with
        | true => exact ready.passes_break width _ printable.1 (Ne.symm noFeed.1) isLineBreak noBlankStart
        | false =>
            cases space : isSpace c with
            | true => exact ready.passes_space width _ printable.1 space noBlankEnd
            | false => exact ready.passes_word width _ indented printable.1 isLineBreak space
      obtain ⟨nextGap, next, stillReady, before, asText, reads⟩ := passes
      obtain ⟨last, readsOthers⟩ := inductionHypothesis printable.2 noFeed.2
        (hasPair_tail noBlankEnd) (hasPair_tail noBlankStart) nextGap next stillReady
      refine ⟨last, ?_⟩
      rw [reads, readsOthers, Option.map_some, ScalarRead.prepend, ← List.append_assoc, asText,
        List.append_assoc, List.singleton_append]

end Sbom.Yaml
