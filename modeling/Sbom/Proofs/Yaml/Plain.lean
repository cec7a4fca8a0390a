import Sbom.Proofs.Yaml.Quoted

/-!
# Plain scalars

A text that is written without marks is read back up to what ends it: a colon before a blank, or a
line break before a line that is indented less. Inside it nothing ends the scalar, since the writer
keeps texts that hold such an end, or the start of a comment, away from this style.
-/

namespace Sbom.Yaml

variable {c before : Char} {others text ending : List Char} {gap : Gap} {place : Position}
  {least : Nat}

/-- Whether all characters of a text are printed and none is a line break. -/
def IsPrintedLine (text : List Char) : Prop :=
  ∀ c ∈ text, isPrintable c = true ∧ isBreak c = false

/-- Where a reader may stand inside a plain scalar, after the given character: the gap holds blanks
only, which a word follows, and either there are no blanks at all or the place is indented. -/
structure InPlain (before : Char) (text : List Char) (gap : Gap) (least : Nat) (place : Position) :
    Prop where
  /-- The gap stays on the line. -/
  sameLine : gap.crossesLine = false
  /-- A gap comes from a blank. -/
  afterSpace : gap.isEmpty = false → isSpace before = true
  /-- The scalar does not end in a blank. -/
  wordLast : isSpace ((before :: text).getLast (List.cons_ne_nil _ _)) = false
  /-- Where there are blanks, the line is indented. -/
  indented : gap.isEmpty = true ∧ (∀ c ∈ text, isSpace c = false) ∨
    least ≤ place.column ∧ 0 < place.column

/-- The reader goes on at a character that ends nothing. -/
theorem readPlain_cons (gap : Gap) (place : Position) (least : Nat) (rest : List Char)
    (printable : isPrintable c = true) (notBreak : isBreak c = false) :
    readPlain false least gap place (c :: rest) =
      if isSpace c then readPlain false least (gap.addBlank c) (place.next c) rest
      else if !gap.isEmpty && endsBeforeWord false least place (c :: rest) then
        some ⟨[], place, c :: rest, gap.crossesLine⟩
      else if c == ':' && startsBlank rest then some ⟨[], place, c :: rest, gap.crossesLine⟩
      else (readPlain false least .empty (place.next c) rest).map
        fun read => read.prepend (gap.text ++ [c]) := by
  have notReturn := ne_return_of_isPrintable printable
  have notTab := beq_tab_of_isPrintable printable
  rw [readPlain, isBlank_eq_isSpace printable]
  · simp [notBreak, notTab]
  · grind

/-- What follows a space does not start a comment. -/
theorem ne_hash_of_holdsMark (noMark : holdsMark before (c :: others) = false)
    (space : isSpace before = true) : c ≠ '#' := by
  rintro rfl
  simp [holdsMark, space] at noMark

theorem holdsMark_tail (noMark : holdsMark before (c :: others) = false) :
    holdsMark c others = false := by
  simp only [holdsMark, Bool.or_eq_false_iff] at noMark
  exact noMark.2

theorem startsBlank_append (line : IsPrintedLine text) (noSpace : startsSpace text = false) :
    startsBlank (text ++ ending) = false := by
  cases text with
  | nil => cases noSpace
  | cons c others =>
      obtain ⟨⟨printable, notBreak⟩, -⟩ := List.forall_mem_cons.mp line
      rw [List.cons_append, startsBlank, isBlank_eq_isSpace printable, notBreak, Bool.or_false]
      exact noSpace

/-- A word may go on where the reader stands in a plain scalar. -/
theorem InPlain.goesOn (within : InPlain before (c :: others) gap least place)
    (noMark : holdsMark before (c :: others) = false) (rest : List Char) :
    (!gap.isEmpty && endsBeforeWord false least place (c :: rest)) = false := by
  cases isEmpty : gap.isEmpty with
  | true => rfl
  | false =>
      have notHash := ne_hash_of_holdsMark noMark (within.afterSpace isEmpty)
      rcases within.indented with ⟨noGap, -⟩ | ⟨deep, positive⟩
      · exact absurd (isEmpty.symm.trans noGap) (by decide)
      · simp [endsBeforeWord, notHash, Nat.not_lt.mpr deep, Nat.ne_of_gt positive]

/-- A colon in a text is not followed by a blank. -/
theorem not_endsKey (line : IsPrintedLine others) (noMark : holdsMark before (c :: others) = false) :
    (c == ':' && startsBlank (others ++ ending)) = false := by
  simp only [holdsMark, Bool.or_eq_false_iff, Bool.and_eq_false_iff] at noMark
  rcases noMark.1.1 with notColon | noSpace
  · rw [notColon, Bool.false_and]
  · rw [startsBlank_append line noSpace, Bool.and_false]

theorem InPlain.word (within : InPlain before (c :: others) gap least place)
    (wordLast : isSpace ((c :: others).getLast (List.cons_ne_nil _ _)) = false) :
    InPlain c others .empty least (place.next c) where
  sameLine := rfl
  afterSpace noGap := nomatch noGap
  wordLast := wordLast
  indented := by
    rcases within.indented with ⟨-, noSpace⟩ | ⟨deep, -⟩
    · exact .inl ⟨rfl, (List.forall_mem_cons.mp noSpace).2⟩
    · exact .inr ⟨Nat.le_succ_of_le deep, Nat.succ_pos _⟩

theorem InPlain.blank (within : InPlain before (c :: others) gap least place)
    (wordLast : isSpace ((c :: others).getLast (List.cons_ne_nil _ _)) = false)
    (space : isSpace c = true) : InPlain c others (gap.addBlank c) least (place.next c) where
  sameLine := by rw [Gap.crossesLine_addBlank, within.sameLine]
  afterSpace _ := space
  wordLast := wordLast
  indented := by
    rcases within.indented with ⟨-, noSpace⟩ | ⟨deep, -⟩
    · exact absurd space (by simp [noSpace c List.mem_cons_self])
    · exact .inr ⟨Nat.le_succ_of_le deep, Nat.succ_pos _⟩

/-- A text that holds no mark is read up to what follows it. -/
theorem readPlain_append (text : List Char) (line : IsPrintedLine text)
    (noMark : holdsMark before text = false) (within : InPlain before text gap least place) :
    readPlain false least gap place (text ++ ending) =
      (readPlain false least .empty (text.foldl Position.next place) ending).map
        fun read => read.prepend (gap.text ++ text) := by
  induction text generalizing before gap place with
  | nil =>
      have noGap : gap = .empty := by
        cases gap with
        | empty => rfl
        | blanks => exact absurd (within.afterSpace rfl) (by simpa using within.wordLast)
        | breaks => cases within.sameLine
      rw [noGap]
      exact Option.map_id'.symm
  | cons c others inductionHypothesis =>
      obtain ⟨⟨printable, notBreak⟩, lineOthers⟩ := List.forall_mem_cons.mp line
      have wordLast : isSpace ((c :: others).getLast (List.cons_ne_nil _ _)) = false := by
        simpa using within.wordLast
      have fromHere : ∀ {nextGap}, InPlain c others nextGap least (place.next c) →
          readPlain false least nextGap (place.next c) (others ++ ending) = _ :=
        inductionHypothesis lineOthers (holdsMark_tail noMark)
      rw [List.cons_append, readPlain_cons gap place least _ printable notBreak]
      cases space : isSpace c with
      | true =>
          rw [if_pos rfl, fromHere (within.blank wordLast space), Gap.text_addBlank within.sameLine]
          simp
      | false =>
          rw [if_neg (by decide), within.goesOn noMark, if_neg (by decide),
            not_endsKey lineOthers noMark, if_neg (by decide), fromHere (within.word wordLast)]
          simp [Function.comp_def, ScalarRead.prepend]

/-- A scalar ends at the colon of a key. -/
theorem readPlain_colon (least : Nat) (place : Position) {rest : List Char}
    (blank : startsBlank rest = true) :
    readPlain false least .empty place (':' :: rest) = some ⟨[], place, ':' :: rest, false⟩ := by
  rw [readPlain_cons _ place least rest (by decide) (by decide), blank]
  rfl

/-! ## Texts that fit -/

/-- What a text that fits without marks looks like. -/
structure Fits (c : Char) (others : List Char) : Prop where
  /-- It is one line. -/
  line : IsPrintedLine (c :: others)
  /-- It does not start with a space. -/
  noSpace : isSpace c = false
  /-- It does not end with a space. -/
  wordLast : isSpace ((c :: others).getLast (List.cons_ne_nil _ _)) = false
  /-- It does not start with a mark. -/
  notReserved : reservedStarts.contains c = false
  /-- A mark that may start it is not followed by a blank. -/
  notIndicator : c = '-' ∨ c = '?' ∨ c = ':' → startsSpace others = false
  /-- It holds no mark. -/
  noMark : ∀ before, isSpace before = false → holdsMark before (c :: others) = false

theorem fits_of_fitsPlain (fits : fitsPlain (c :: others) = true) : Fits c others := by
  simp only [fitsPlain, Bool.and_eq_true, Bool.not_eq_true', List.all_eq_true] at fits
  obtain ⟨⟨⟨⟨line, noSpace⟩, wordLast⟩, notReserved⟩, noMark⟩ := fits
  have starts : reservedStarts.contains c = false ∧
      (c = '-' ∨ c = '?' ∨ c = ':' → startsSpace others = false) := by
    unfold startsReserved at notReserved
    split at notReserved
    case h_1 => cases notReserved
    case h_2 => cases notReserved
    case h_3 isNil => cases isNil
    case h_4 _ _ same =>
      cases same
      simp only [Bool.or_eq_false_iff, Bool.and_eq_false_iff, beq_eq_false_iff_ne] at notReserved
      refine ⟨notReserved.1, ?_⟩
      rintro (rfl | rfl | rfl)
      all_goals simpa using notReserved.2
  refine ⟨fun d member => ?_, by simpa using noSpace, ?_, starts.1, starts.2, ?_⟩
  · simpa using line d member
  · rw [List.getLast?_eq_some_getLast (List.cons_ne_nil c others)] at wordLast
    exact wordLast
  · intro before notBlank
    have notColon : (c == ':' && startsSpace others) = false := by
      by_cases colon : c = ':'
      · rw [starts.2 (.inr (.inr colon)), Bool.and_false]
      · simp [colon]
    rw [holdsMark, notColon, notBlank, Bool.and_false, noMark]
    rfl

/-- A text that fits is read up to what follows it. -/
theorem Fits.readPlain_append (fits : Fits c others) (ending : List Char)
    (deep : least ≤ place.column) (positive : 0 < place.column) :
    readPlain false least .empty place (c :: others ++ ending) =
      (readPlain false least .empty ((c :: others).foldl Position.next place) ending).map
        fun read => read.prepend (c :: others) := by
  have within : InPlain 'a' (c :: others) .empty least place :=
    ⟨rfl, nofun, fits.wordLast, .inr ⟨deep, positive⟩⟩
  exact Yaml.readPlain_append (c :: others) fits.line (fits.noMark 'a' (by decide)) within

/-! ## The line after a scalar -/

/-- Whether a text starts an entry: it has ended, or it goes on with a small letter. -/
def StartsEntry (body : List Char) : Prop :=
  ∀ c ∈ body.head?, 97 ≤ c.toNat ∧ c.toNat ≤ 122

section Letters

variable (lower : 97 ≤ c.toNat) (upper : c.toNat ≤ 122)
include lower upper

theorem isPrintable_of_letter : isPrintable c = true := by
  simp only [isPrintable, Bool.or_eq_true, Bool.and_eq_true, decide_eq_true_eq]
  omega

theorem isBreak_of_letter : isBreak c = false := by
  simp only [isBreak, Bool.or_eq_false_iff, beq_eq_false_iff_ne]
  refine ⟨⟨⟨⟨?_, ?_⟩, ?_⟩, ?_⟩, ?_⟩
  · rintro rfl; exact absurd lower (by decide)
  · rintro rfl; exact absurd lower (by decide)
  all_goals omega

theorem isSpace_of_letter : isSpace c = false := by
  rw [isSpace, beq_eq_false_iff_ne]
  rintro rfl
  exact absurd lower (by decide)

theorem isBlank_of_letter : isBlank c = false := by
  rw [isBlank_eq_isSpace (isPrintable_of_letter lower upper), isSpace_of_letter lower upper]

end Letters

/-- The margin of a line is passed. -/
theorem readPlain_margin (least : Nat) (crosses : gap.crossesLine = true) (width : Nat)
    (place : Position) :
    ∃ next, next.column = place.column + width ∧ ∀ rest,
      readPlain false least gap place (margin width ++ rest) =
        readPlain false least gap next rest := by
  induction width generalizing place with
  | zero => exact ⟨place, rfl, fun _ => rfl⟩
  | succ width inductionHypothesis =>
      obtain ⟨next, column, passes⟩ := inductionHypothesis (place.next ' ')
      refine ⟨next, by rw [column]; simp only [Position.next]; omega, fun rest => ?_⟩
      rw [margin, List.replicate_succ, List.cons_append,
        readPlain_cons gap place least _ (by decide) (by decide), if_pos (by decide),
        Gap.addBlank_of_crossesLine crosses]
      exact passes rest

/-- A scalar ends at its line break if the next line is an entry that is indented less. -/
theorem readPlain_lineBreak (place : Position) {width : Nat} {body : List Char}
    (outside : width < least) (entry : StartsEntry body) :
    ∃ next, next.column = width ∧
      readPlain false least .empty place ('\n' :: (margin width ++ body)) =
        some ⟨[], next, body, true⟩ := by
  have crosses : (Gap.breaks (some '\n') []).crossesLine = true := rfl
  obtain ⟨next, column, passes⟩ := readPlain_margin least crosses width (place.nextLine 1)
  have atEntry : next.column = width := by rw [column]; exact Nat.zero_add width
  have afterBreak : readPlain false least .empty place ('\n' :: (margin width ++ body)) =
      readPlain false least (.breaks (some '\n') []) next body := passes body
  refine ⟨next, atEntry, ?_⟩
  rw [afterBreak]
  cases body with
  | nil => rfl
  | cons c rest =>
      obtain ⟨lower, upper⟩ := entry c rfl
      rw [readPlain_cons _ next least rest (isPrintable_of_letter lower upper)
        (isBreak_of_letter lower upper), isSpace_of_letter lower upper]
      simp [Gap.isEmpty, endsBeforeWord, atEntry, outside, Gap.crossesLine]

end Sbom.Yaml
