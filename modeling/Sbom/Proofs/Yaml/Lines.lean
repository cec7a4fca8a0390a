import Sbom.Proofs.Yaml.Plain

/-!
# Blocks of lines

A text that is written as a block of lines is read back from it. The reader works in lines: the line
breaks in front, then a line with the break that ends it and the breaks of the empty lines after it,
and so on. The header says what the text itself does not show: the indentation where the first line
starts with a blank, and how many of the line breaks at the end belong to the text.
-/

namespace Sbom.Yaml

variable {c : Char} {breaks line others text rest : List Char} {place : Position} {width : Nat}

/-- Whether all characters of a text are line breaks. -/
def IsBreaks (text : List Char) : Prop :=
  ∀ c ∈ text, isPrintable c = true ∧ isBreak c = true

/-! ## The written lines -/

theorem literalForm_breaks (areBreaks : IsBreaks breaks) :
    literalForm width true (breaks ++ others) = breaks ++ literalForm width true others := by
  induction breaks with
  | nil => rfl
  | cons c more inductionHypothesis =>
      obtain ⟨⟨-, isLineBreak⟩, areMore⟩ := List.forall_mem_cons.mp areBreaks
      rw [List.cons_append, literalForm, if_pos isLineBreak, inductionHypothesis areMore,
        List.cons_append]

theorem literalForm_line (isLine : IsPrintedLine line) :
    literalForm width false (line ++ others) = line ++ literalForm width false others := by
  induction line with
  | nil => rfl
  | cons c more inductionHypothesis =>
      obtain ⟨⟨-, notBreak⟩, isMore⟩ := List.forall_mem_cons.mp isLine
      rw [List.cons_append, literalForm, notBreak, inductionHypothesis isMore]
      rfl

/-- The first line has its margin. -/
theorem literalForm_margin (notBreak : isBreak c = false) :
    literalForm width true (c :: others) = margin width ++ literalForm width false (c :: others) := by
  simp [literalForm, notBreak]

/-! ## Empty lines -/

theorem readEmptyLines_cons (indent : Option Nat) (deepest : Nat) (place : Position)
    (rest : List Char) (printable : isPrintable c = true) :
    readEmptyLines indent deepest place (c :: rest) =
      if (indent.all fun width => place.column < width) && isSpace c then
        readEmptyLines indent deepest (place.next c) rest
      else if isBreak c then
        (readEmptyLines indent (max deepest place.column) (place.nextLine c.utf8Size) rest).map
          fun (breaks, found) => (c :: breaks, found)
      else some ([], max deepest place.column, place, c :: rest) := by
  have notReturn := ne_return_of_isPrintable printable
  have notTab := beq_tab_of_isPrintable printable
  rw [readEmptyLines]
  · rw [notTab, Bool.and_false, isSpace]
    simp only [Bool.false_eq_true, if_false]
    cases isLineBreak : isBreak c with
    | true => rw [meantBreak_of_isPrintable printable isLineBreak]
    | false => rfl
  · grind

/-- Line breaks in front are found, whatever the indentation. -/
theorem readEmptyLines_breaks (indent : Option Nat) (deepest : Nat) (areBreaks : IsBreaks breaks)
    (start : place.column = 0) :
    ∃ next, next.column = 0 ∧ ∀ rest,
      readEmptyLines indent deepest place (breaks ++ rest) =
        (readEmptyLines indent deepest next rest).map
          fun (more, found) => (breaks ++ more, found) := by
  induction breaks generalizing place with
  | nil => exact ⟨place, start, fun _ => Option.map_id'.symm⟩
  | cons c others inductionHypothesis =>
      obtain ⟨⟨printable, isLineBreak⟩, areOthers⟩ := List.forall_mem_cons.mp areBreaks
      have notSpace : isSpace c = false := by
        cases space : isSpace c with
        | false => rfl
        | true => exact absurd isLineBreak (by simp [isBreak_of_isSpace space])
      have newLine : (place.nextLine c.utf8Size).column = 0 := rfl
      obtain ⟨next, column, finds⟩ := inductionHypothesis areOthers newLine
      refine ⟨next, column, fun rest => ?_⟩
      rw [List.cons_append, readEmptyLines_cons indent deepest place _ printable, notSpace,
        Bool.and_false, if_neg (by decide), if_pos isLineBreak, start, Nat.max_zero, finds,
        Option.map_map]
      rfl

/-- The margin of a line is passed, as far as it is part of the indentation. -/
theorem readEmptyLines_margin (indent : Option Nat) (deepest count : Nat) (place : Position)
    (inIndent : ∀ width ∈ indent, place.column + count ≤ width) :
    ∃ next, next.column = place.column + count ∧ ∀ rest,
      readEmptyLines indent deepest place (margin count ++ rest) =
        readEmptyLines indent deepest next rest := by
  induction count generalizing place with
  | zero => exact ⟨place, rfl, fun _ => rfl⟩
  | succ count inductionHypothesis =>
      have further : (place.next ' ').column = place.column + 1 := rfl
      obtain ⟨next, column, passes⟩ := inductionHypothesis (place.next ' ')
        (fun width known => by rw [further]; have := inIndent width known; omega)
      refine ⟨next, by omega, fun rest => ?_⟩
      have counts : (indent.all fun width => decide (place.column < width)) = true := by
        cases indent with
        | none => rfl
        | some width => exact decide_eq_true (by have := inIndent width rfl; omega)
      rw [margin, List.replicate_succ, List.cons_append,
        readEmptyLines_cons indent deepest place _ (by decide), counts, if_pos (by decide)]
      exact passes rest

/-- Empty lines end where a line starts: at a character after the indentation, or at a word if the
indentation is not known. -/
theorem readEmptyLines_word {indent : Option Nat} (deepest : Nat) (printable : isPrintable c = true)
    (notBreak : isBreak c = false) (reached : isSpace c = true → place.column ∈ indent) :
    readEmptyLines indent deepest place (c :: rest) =
      some ([], max deepest place.column, place, c :: rest) := by
  rw [readEmptyLines_cons indent deepest place rest printable, notBreak]
  cases space : isSpace c with
  | false => rw [Bool.and_false]; rfl
  | true => rw [Option.mem_def.mp (reached space)]; simp

/-- The line breaks in front of a line and the start of the line are found in its form. -/
theorem readEmptyLines_form {indent : Option Nat} (areBreaks : IsBreaks breaks)
    (printable : isPrintable c = true) (notBreak : isBreak c = false) (start : place.column = 0)
    (known : ∀ given ∈ indent, given = width) (needed : isSpace c = true → indent = some width) :
    ∃ next, next.column = width ∧
      readEmptyLines indent 0 place (literalForm width true (breaks ++ c :: others) ++ rest) =
        some (breaks, width, next, literalForm width false (c :: others) ++ rest) := by
  obtain ⟨newLine, column, finds⟩ := readEmptyLines_breaks indent 0 areBreaks start
  obtain ⟨next, reached, passes⟩ := readEmptyLines_margin indent 0 width newLine
    (fun given isGiven => by have := known given isGiven; omega)
  have atWidth : next.column = width := by omega
  refine ⟨next, atWidth, ?_⟩
  have form : literalForm width false (c :: others) = c :: literalForm width false others := by
    simp [literalForm, notBreak]
  rw [literalForm_breaks areBreaks, literalForm_margin notBreak, List.append_assoc,
    List.append_assoc, finds, passes, form, List.cons_append,
    readEmptyLines_word 0 printable notBreak (fun space => by rw [needed space, atWidth]; rfl),
    atWidth]
  simp

/-- Only line breaks are found before an entry that is indented less. -/
theorem readEmptyLines_entry {outer : Nat} {body : List Char} (areBreaks : IsBreaks breaks)
    (start : place.column = 0) (outside : outer ≤ width) (entry : StartsEntry body) :
    ∃ deepest next, next.column = outer ∧
      readEmptyLines (some width) 0 place (breaks ++ (margin outer ++ body)) =
        some (breaks, deepest, next, body) := by
  obtain ⟨newLine, column, finds⟩ := readEmptyLines_breaks (some width) 0 areBreaks start
  obtain ⟨next, reached, passes⟩ := readEmptyLines_margin (some width) 0 outer newLine
    (fun given isGiven => by cases isGiven; omega)
  refine ⟨max 0 next.column, next, by omega, ?_⟩
  rw [finds, passes]
  cases body with
  | nil => simp [readEmptyLines]
  | cons c rest =>
      obtain ⟨lower, upper⟩ := entry c rfl
      rw [readEmptyLines_word 0 (isPrintable_of_letter lower upper) (isBreak_of_letter lower upper)
        (fun space => absurd space (by simp [isSpace_of_letter lower upper]))]
      simp

/-! ## Lines -/

theorem takeBreak?_of_isPrintable (printable : isPrintable c = true) (isLineBreak : isBreak c = true)
    (place : Position) (rest : List Char) :
    takeBreak? place (c :: rest) = some (c, place.nextLine c.utf8Size, rest) := by
  have notReturn := ne_return_of_isPrintable printable
  rw [takeBreak?]
  · rw [if_pos isLineBreak, meantBreak_of_isPrintable printable isLineBreak]
  · grind

theorem spanWhile_line (isLine : IsPrintedLine line) (isLineBreak : isBreak c = true)
    (place : Position) (rest : List Char) :
    spanWhile (fun c => !isBreak c) place (line ++ c :: rest) =
      (line, line.foldl Position.next place, c :: rest) := by
  have inLine : ∀ d ∈ line, (!isBreak d) = true := fun d member => by simp [(isLine d member).2]
  simp [spanWhile, List.takeWhile_append_of_pos inLine, List.dropWhile_append_of_pos inLine,
    isLineBreak]

/-- A line of a block is read with the break that ends it, and the reader goes on after the empty
lines that follow. -/
theorem readLines_line (chomping : Chomping) (fuel : Nat) (pending : PendingBreaks)
    (isLine : IsPrintedLine (c :: line)) {d : Char} (printable : isPrintable d = true)
    (isLineBreak : isBreak d = true) (atWidth : place.column = width) {deepest : Nat}
    {last : Position} {after tail : List Char}
    (empty : readEmptyLines (some width) 0
      (((c :: line).foldl Position.next place).nextLine d.utf8Size) after =
        some (breaks, deepest, last, tail)) :
    readLines .literal chomping width (fuel + 1) pending place (c :: line ++ d :: after) =
      (readLines .literal chomping width fuel ⟨[d], breaks, isBlank c⟩ last tail).map
        fun read => read.prepend (pending.ending ++ pending.empty ++ c :: line) := by
  have span := spanWhile_line isLine isLineBreak place after
  rw [List.cons_append] at span ⊢
  simp only [readLines, atWidth, ne_eq, not_true_eq_false, if_false, span,
    takeBreak?_of_isPrintable printable isLineBreak, empty, Option.bind_some]
  simp [PendingBreaks.text]

/-- A text splits where its characters fail a test for the first time. -/
theorem exists_split (test : Char → Bool) (text : List Char) :
    ∃ front back, text = front ++ back ∧ (∀ c ∈ front, test c = true) ∧
      ∀ c ∈ back.head?, test c = false := by
  refine ⟨text.takeWhile test, text.dropWhile test, List.takeWhile_append_dropWhile.symm,
    fun c member => ?_, fun c isHead => ?_⟩
  · exact List.all_eq_true.mp List.all_takeWhile c member
  · have := List.head?_dropWhile_not test text
    rw [Option.mem_def.mp isHead] at this
    exact this

/-- A printed text starts with its line breaks, and a line starts after them. -/
theorem exists_breaks {text : List Char} (printable : ∀ c ∈ text, isPrintable c = true) :
    ∃ breaks others, text = breaks ++ others ∧ IsBreaks breaks ∧
      (∀ c ∈ others, isPrintable c = true) ∧ ∀ c ∈ others.head?, isBreak c = false := by
  obtain ⟨breaks, others, rfl, inBreaks, atWord⟩ := exists_split isBreak text
  obtain ⟨printedBreaks, printedOthers⟩ := List.forall_mem_append.mp printable
  exact ⟨breaks, others, rfl, fun c member => ⟨printedBreaks c member, inBreaks c member⟩,
    printedOthers, atWord⟩

/-- A printed text starts with a line, and line breaks come before the next one. -/
theorem exists_line {text : List Char} (printable : ∀ c ∈ text, isPrintable c = true) :
    ∃ line breaks others, text = line ++ (breaks ++ others) ∧ IsPrintedLine line ∧
      IsBreaks breaks ∧ (breaks = [] → others = []) ∧ (∀ c ∈ others, isPrintable c = true) ∧
      ∀ c ∈ others.head?, isBreak c = false := by
  obtain ⟨line, rest, rfl, inLine, atEnd⟩ := exists_split (fun c => !isBreak c) text
  obtain ⟨printedLine, printedRest⟩ := List.forall_mem_append.mp printable
  obtain ⟨breaks, others, rfl, areBreaks, printedOthers, atWord⟩ := exists_breaks printedRest
  refine ⟨line, breaks, others, rfl,
    fun c member => ⟨printedLine c member, by simpa using inLine c member⟩, areBreaks, ?_,
    printedOthers, atWord⟩
  rintro rfl
  cases others with
  | nil => rfl
  | cons c more => exact absurd (atEnd c rfl) (by simp [atWord c rfl])

/-! ## Chomping -/

/-- The sign that asks for a chomping. -/
def Chomping.sign : Chomping → List Char
  | .strip => ['-']
  | .clip => []
  | .keep => ['+']

/-- The chomping that keeps exactly the given line breaks at the end of a text. -/
def Chomping.forEnd : List Char → Chomping
  | [] => .strip
  | [_] => .clip
  | _ => .keep

/-- Whether a chomping is the one for the line breaks after the last character that is none. -/
def Chomping.Suits (chomping : Chomping) (text : List Char) : Prop :=
  ∀ front last breaks, text = front ++ last :: breaks → isBreak last = false → IsBreaks breaks →
    chomping = .forEnd breaks

/-- What is left of a text ends as the text. -/
theorem Chomping.Suits.of_append {chomping : Chomping} (front : List Char)
    (suits : chomping.Suits (front ++ text)) : chomping.Suits text := by
  intro before last breaks split
  exact suits (front ++ before) last breaks (by rw [split, List.append_assoc])

/-- A text without line breaks at its end is stripped. -/
theorem Chomping.Suits.eq_strip {chomping : Chomping} (suits : chomping.Suits (c :: line))
    (isLine : IsPrintedLine (c :: line)) : chomping = .strip :=
  suits (c :: line).dropLast ((c :: line).getLast (List.cons_ne_nil _ _)) []
    (List.dropLast_concat_getLast _).symm (isLine _ (List.getLast_mem _)).2 (by simp [IsBreaks])

/-- What is read at the end of a text are its line breaks. -/
theorem Chomping.Suits.chomped {chomping : Chomping} {d : Char}
    (suits : chomping.Suits (c :: line ++ d :: breaks)) (isLine : IsPrintedLine (c :: line))
    (areBreaks : IsBreaks (d :: breaks)) (afterBlank : Bool) :
    PendingBreaks.chomped ⟨[d], breaks, afterBlank⟩ chomping = d :: breaks := by
  have isForEnd : chomping = .forEnd (d :: breaks) := by
    refine suits (c :: line).dropLast ((c :: line).getLast (List.cons_ne_nil _ _)) (d :: breaks) ?_
      (isLine _ (List.getLast_mem _)).2 areBreaks
    rw [List.append_cons (c :: line).dropLast, List.dropLast_concat_getLast]
  rw [isForEnd]
  cases breaks <;> rfl

theorem readLines_entry (chomping : Chomping) (fuel : Nat) (pending : PendingBreaks)
    (body : List Char) (outside : place.column ≠ width) :
    readLines .literal chomping width (fuel + 1) pending place body =
      some ⟨pending.chomped chomping, place, body, false⟩ := by
  cases body with
  | nil => rfl
  | cons c rest => simp [readLines, outside]

section Reading

variable {chomping : Chomping} {outer : Nat} {body : List Char} (fuel : Nat)
  (pending : PendingBreaks)

/-- The last line of a text without a line break at its end gets one that does not count. -/
theorem readLines_lastLine (outside : outer < width) (entry : StartsEntry body)
    (strips : chomping = .strip) (isLine : IsPrintedLine (c :: line)) (atWidth : place.column = width) :
    ∃ next, next.column = outer ∧
      readLines .literal chomping width (fuel + 2) pending place
          (literalForm width false (c :: line) ++ (margin outer ++ body)) =
        some ⟨pending.ending ++ pending.empty ++ c :: line, next, body, false⟩ := by
  have newLine : (((c :: line).foldl Position.next place).nextLine 1).column = 0 := rfl
  have noBreaks : IsBreaks [] := List.forall_mem_nil _
  obtain ⟨deepest, next, column, empty⟩ :=
    readEmptyLines_entry noBreaks newLine (Nat.le_of_lt outside) entry
  have reads := readLines_line chomping (fuel + 1) pending isLine (d := '\n') (by decide) (by decide)
    atWidth empty
  have ends := readLines_entry chomping fuel ⟨['\n'], [], isBlank c⟩ body
    (show next.column ≠ width by omega)
  have form : literalForm width false (c :: line ++ []) = c :: line ++ ['\n'] :=
    literalForm_line isLine
  rw [List.append_nil] at form
  refine ⟨next, column, ?_⟩
  rw [ends, strips] at reads
  rw [strips, form]
  simpa [ScalarRead.prepend, PendingBreaks.chomped] using reads

/-- The last line of a text is read with the line breaks after it. -/
theorem readLines_lastBreaks (outside : outer < width) (entry : StartsEntry body) {d : Char}
    (suits : chomping.Suits (c :: line ++ d :: breaks)) (isLine : IsPrintedLine (c :: line))
    (areBreaks : IsBreaks (d :: breaks)) (atWidth : place.column = width) :
    ∃ next, next.column = outer ∧
      readLines .literal chomping width (fuel + 2) pending place
          (literalForm width false (c :: line ++ d :: breaks) ++ (margin outer ++ body)) =
        some ⟨pending.ending ++ pending.empty ++ (c :: line ++ d :: breaks), next, body, false⟩ := by
  obtain ⟨⟨printable, isLineBreak⟩, areMore⟩ := List.forall_mem_cons.mp areBreaks
  have newLine : (((c :: line).foldl Position.next place).nextLine d.utf8Size).column = 0 := rfl
  obtain ⟨deepest, next, column, empty⟩ :=
    readEmptyLines_entry areMore newLine (Nat.le_of_lt outside) entry
  have reads := readLines_line chomping (fuel + 1) pending isLine printable isLineBreak atWidth empty
  have ends := readLines_entry chomping fuel ⟨[d], breaks, isBlank c⟩ body
    (show next.column ≠ width by omega)
  have form : literalForm width false (c :: line ++ d :: breaks) = c :: line ++ d :: breaks := by
    have afterBreaks : literalForm width true (breaks ++ []) = breaks ++ [] :=
      literalForm_breaks areMore
    rw [List.append_nil] at afterBreaks
    rw [literalForm_line isLine, literalForm, if_pos isLineBreak, afterBreaks]
  refine ⟨next, column, ?_⟩
  rw [ends, suits.chomped isLine areBreaks] at reads
  rw [form]
  simpa [ScalarRead.prepend] using reads

/-- A line with another one after it is read with the line breaks between them. -/
theorem readLines_further (chomping : Chomping) {d e : Char} (isLine : IsPrintedLine (c :: line))
    (areBreaks : IsBreaks (d :: breaks)) (printable : isPrintable e = true)
    (notBreak : isBreak e = false) (atWidth : place.column = width) :
    ∃ next, next.column = width ∧
      readLines .literal chomping width (fuel + 1) pending place
          (literalForm width false (c :: line ++ d :: (breaks ++ e :: others)) ++ rest) =
        (readLines .literal chomping width fuel ⟨[d], breaks, isBlank c⟩ next
          (literalForm width false (e :: others) ++ rest)).map
            fun read => read.prepend (pending.ending ++ pending.empty ++ c :: line) := by
  obtain ⟨⟨printedBreak, isLineBreak⟩, areMore⟩ := List.forall_mem_cons.mp areBreaks
  have newLine : (((c :: line).foldl Position.next place).nextLine d.utf8Size).column = 0 := rfl
  have known : ∀ given ∈ some width, given = width := fun given isGiven => (Option.some.inj isGiven).symm
  obtain ⟨next, column, empty⟩ := readEmptyLines_form areMore printable notBreak newLine known
    fun _ => rfl
  refine ⟨next, column, ?_⟩
  rw [literalForm_line isLine, literalForm, if_pos isLineBreak, List.append_assoc, List.cons_append]
  exact readLines_line chomping fuel pending isLine printedBreak isLineBreak atWidth empty

end Reading

/-- The lines of a text are read from its form. The induction is on the fuel: a round of the reader
takes a line with the line breaks after it, and a last round finds the next entry. -/
theorem readLines_form {outer : Nat} {body : List Char} (outside : outer < width)
    (entry : StartsEntry body) {chomping : Chomping} (text : List Char)
    (printable : ∀ d ∈ c :: text, isPrintable d = true) (notBreak : isBreak c = false)
    (suits : chomping.Suits (c :: text)) {fuel : Nat} (enough : text.length + 1 < fuel)
    (pending : PendingBreaks) (atWidth : place.column = width) :
    ∃ next, next.column = outer ∧
      readLines .literal chomping width fuel pending place
          (literalForm width false (c :: text) ++ (margin outer ++ body)) =
        some ⟨pending.ending ++ pending.empty ++ c :: text, next, body, false⟩ := by
  induction fuel generalizing c text pending place with
  | zero => omega
  | succ fuel inductionHypothesis =>
      obtain ⟨less, rfl⟩ : ∃ less, fuel = less + 1 := ⟨fuel - 1, by omega⟩
      obtain ⟨printed, printedText⟩ := List.forall_mem_cons.mp printable
      obtain ⟨line, breaks, others, rfl, inLine, areBreaks, lastLine, printedOthers, atWord⟩ :=
        exists_line printedText
      have isLine : IsPrintedLine (c :: line) :=
        List.forall_mem_cons.mpr ⟨⟨printed, notBreak⟩, inLine⟩
      cases breaks with
      | nil =>
          rw [lastLine rfl, List.append_nil, List.append_nil] at suits ⊢
          exact readLines_lastLine less pending outside entry (suits.eq_strip isLine) isLine atWidth
      | cons d breaks =>
          rw [← List.cons_append] at suits ⊢
          cases others with
          | nil =>
              rw [List.append_nil] at suits ⊢
              exact readLines_lastBreaks less pending outside entry suits isLine areBreaks atWidth
          | cons e others =>
              have startsLine := atWord e rfl
              obtain ⟨next, column, reads⟩ := readLines_further (less + 1) pending chomping
                isLine areBreaks (printedOthers e List.mem_cons_self) startsLine atWidth
              have suitsOthers : chomping.Suits (e :: others) := by
                refine Chomping.Suits.of_append (c :: line ++ d :: breaks) ?_
                simpa using suits
              have fewer : others.length + 1 < less + 1 := by
                simp only [List.length_append, List.length_cons] at enough
                omega
              obtain ⟨last, lastColumn, readsOthers⟩ := inductionHypothesis others printedOthers
                startsLine suitsOthers fewer ⟨[d], breaks, isBlank c⟩ column
              refine ⟨last, lastColumn, ?_⟩
              rw [List.cons_append (a := d), reads, readsOthers]
              simp [ScalarRead.prepend]

/-! ## Headers -/

theorem Chomping.sign_inj {chomping other : Chomping} :
    chomping.sign = other.sign ↔ chomping = other := by
  cases chomping <;> cases other <;> decide

/-- Every text has a sign that asks for a chomping. -/
theorem exists_chomping (text : List Char) :
    ∃ chomping : Chomping, chompingSign text = chomping.sign := by
  unfold chompingSign
  split
  case h_1 => exact ⟨.strip, rfl⟩
  case h_2 =>
    split
    · exact ⟨.strip, rfl⟩
    · split
      · exact ⟨.keep, rfl⟩
      · exact ⟨.clip, rfl⟩

/-- The sign of a text tells how many line breaks there are at its end. -/
theorem chompingSign_append (front : List Char) {last : Char} (notBreak : isBreak last = false)
    (areBreaks : IsBreaks breaks) :
    chompingSign (front ++ last :: breaks) = (Chomping.forEnd breaks).sign := by
  have isLineBreak : ∀ c ∈ breaks.reverse, isBreak c = true :=
    fun c member => (areBreaks c (List.mem_reverse.mp member)).2
  rw [chompingSign, List.reverse_append, List.reverse_cons, List.append_assoc]
  rw [← List.reverse_reverse breaks]
  generalize breaks.reverse = reversed at isLineBreak ⊢
  rcases reversed with - | ⟨first, - | ⟨second, more⟩⟩
  · simp [notBreak, Chomping.forEnd, Chomping.sign]
  · simp [isLineBreak first, notBreak, Chomping.forEnd, Chomping.sign]
  · have several : Chomping.forEnd (first :: second :: more).reverse = .keep := by
      rw [List.reverse_cons, List.reverse_cons, List.append_assoc]
      rcases more.reverse with - | ⟨third, - | ⟨fourth, others⟩⟩ <;> rfl
    rw [several]
    simp [isLineBreak first, isLineBreak second, Chomping.sign]

theorem Chomping.suits_of_sign {chomping : Chomping} (sign : chompingSign text = chomping.sign) :
    chomping.Suits text := by
  rintro front last breaks rfl notBreak areBreaks
  rw [chompingSign_append front notBreak areBreaks] at sign
  exact (Chomping.sign_inj.mp sign).symm

/-- All line breaks of a text are kept if there is nothing else. -/
theorem chompingSign_of_isBreaks (areBreaks : IsBreaks text) (notEmpty : text ≠ []) :
    chompingSign text = Chomping.keep.sign := by
  have isLineBreak : ∀ c ∈ text.reverse, isBreak c = true :=
    fun c member => (areBreaks c (List.mem_reverse.mp member)).2
  have notEmpty : text.reverse ≠ [] := by simpa using notEmpty
  rw [chompingSign]
  generalize text.reverse = reversed at isLineBreak notEmpty
  rcases reversed with - | ⟨first, - | ⟨second, more⟩⟩
  · exact absurd rfl notEmpty
  · simp [isLineBreak first, Chomping.sign]
  · simp [isLineBreak first, isLineBreak second, Chomping.sign]

theorem decimal_indentStep : Text.decimal indentStep = ['2'] := by
  rw [indentStep, Text.decimal]
  rfl

/-- The two parts of a header are read, whichever of them are there. -/
theorem readHeader_parts (given : Bool) (chomping : Chomping) (place : Position) (rest : List Char) :
    ∃ next, readHeader place ((if given then ['2'] else []) ++ chomping.sign ++ '\n' :: rest) =
      (⟨chomping, if given then some indentStep else none⟩, next, '\n' :: rest) := by
  cases given with
  | true => cases chomping <;> exact ⟨_, rfl⟩
  | false =>
      cases chomping with
      | strip => exact ⟨_, rfl⟩
      | keep => exact ⟨_, rfl⟩
      | clip => cases rest <;> exact ⟨_, rfl⟩

/-- Whether the first line of a text does not show the indentation. -/
def hidesIndent (text : List Char) : Bool :=
  text.head?.any fun c => isSpace c || isBreak c

/-- After the header of a text the reader knows the chomping, and the indentation if the text hides
it. -/
theorem readBlock_header {chomping : Chomping} (sign : chompingSign text = chomping.sign)
    (parent : Nat) (place : Position) (rest : List Char) :
    ∃ start, start.column = 0 ∧
      readBlock .literal (some parent) place ((literalHeader text).tail ++ rest) =
        (readEmptyLines (if hidesIndent text then some (parent + indentStep) else none) 0 start
          rest).bind fun (empty, deepest, place, rest) =>
            readLines .literal chomping
              (if hidesIndent text then parent + indentStep else max deepest (parent + 1))
              (rest.length + 1) { empty } place rest := by
  obtain ⟨afterHeader, reads⟩ := readHeader_parts (hidesIndent text) chomping place rest
  have header : (literalHeader text).tail ++ rest =
      (if hidesIndent text then ['2'] else []) ++ chomping.sign ++ '\n' :: rest := by
    rw [literalHeader, List.tail_cons, decimal_indentStep, sign, List.append_assoc]
    rfl
  have lineEnd : endHeaderLine? afterHeader ('\n' :: rest) = some (afterHeader.nextLine 1, rest) :=
    rfl
  refine ⟨afterHeader.nextLine 1, rfl, ?_⟩
  rw [readBlock, header, reads]
  cases hidesIndent text with
  | true => simp [lineEnd, indentStep]
  | false => simp [lineEnd]

theorem length_le_literalForm (width : Nat) (lineStart : Bool) (text : List Char) :
    text.length ≤ (literalForm width lineStart text).length := by
  induction text generalizing lineStart with
  | nil => exact Nat.zero_le _
  | cons c others inductionHypothesis =>
      rw [literalForm]
      split
      case isTrue => exact Nat.succ_le_succ (inductionHypothesis true)
      case isFalse =>
        rw [List.length_append, List.length_cons, List.length_cons]
        have := inductionHypothesis false
        omega

theorem hidesIndent_of_isBreaks (areBreaks : IsBreaks breaks) (notEmpty : breaks ≠ []) :
    hidesIndent breaks = true := by
  cases breaks with
  | nil => exact absurd rfl notEmpty
  | cons b more => simp [hidesIndent, (areBreaks b List.mem_cons_self).2]

/-- A text whose first line with a word starts with a space hides the indentation. -/
theorem hidesIndent_append_of_isSpace (areBreaks : IsBreaks breaks) (space : isSpace c = true) :
    hidesIndent (breaks ++ c :: others) = true := by
  cases breaks with
  | nil => simp [hidesIndent, space]
  | cons b more => simp [hidesIndent, (areBreaks b List.mem_cons_self).2]

section Block

variable {parent outer : Nat} {body : List Char} (outside : outer ≤ parent)
  (entry : StartsEntry body) (place : Position)
include outside entry

/-- A text of line breaks only is read back from a block. -/
theorem readBlock_breaks (areBreaks : IsBreaks breaks) (notEmpty : breaks ≠ []) :
    ∃ next, next.column = outer ∧
      readBlock .literal (some parent) place
          ((literalHeader breaks).tail ++
            (literalForm (parent + indentStep) true breaks ++ (margin outer ++ body))) =
        some ⟨breaks, next, body, false⟩ := by
  have deeper : outer < parent + indentStep := Nat.lt_of_le_of_lt outside (by simp [indentStep])
  obtain ⟨start, startColumn, reads⟩ := readBlock_header
    (chompingSign_of_isBreaks areBreaks notEmpty) parent place
    (literalForm (parent + indentStep) true breaks ++ (margin outer ++ body))
  have form : literalForm (parent + indentStep) true (breaks ++ []) = breaks ++ [] :=
    literalForm_breaks areBreaks
  rw [List.append_nil] at form
  obtain ⟨deepest, next, column, empty⟩ :=
    readEmptyLines_entry areBreaks startColumn (Nat.le_of_lt deeper) entry
  have ends := readLines_entry .keep body.length { empty := breaks } body
    (show next.column ≠ parent + indentStep by omega)
  refine ⟨next, column, ?_⟩
  rw [reads, form, hidesIndent_of_isBreaks areBreaks notEmpty, if_pos rfl, empty, Option.bind_some]
  exact ends

/-- A text with lines is read back from a block. -/
theorem readBlock_lines (areBreaks : IsBreaks breaks)
    (printable : ∀ d ∈ c :: others, isPrintable d = true) (notBreak : isBreak c = false) :
    ∃ next, next.column = outer ∧
      readBlock .literal (some parent) place
          ((literalHeader (breaks ++ c :: others)).tail ++
            (literalForm (parent + indentStep) true (breaks ++ c :: others) ++
              (margin outer ++ body))) =
        some ⟨breaks ++ c :: others, next, body, false⟩ := by
  have deeper : outer < parent + indentStep := Nat.lt_of_le_of_lt outside (by simp [indentStep])
  obtain ⟨chomping, sign⟩ := exists_chomping (breaks ++ c :: others)
  obtain ⟨start, startColumn, reads⟩ := readBlock_header sign parent place
    (literalForm (parent + indentStep) true (breaks ++ c :: others) ++ (margin outer ++ body))
  have known : ∀ given ∈ (if hidesIndent (breaks ++ c :: others) then
      some (parent + indentStep) else none), given = parent + indentStep := by
    split <;> simp
  have needed : isSpace c = true → (if hidesIndent (breaks ++ c :: others) then
      some (parent + indentStep) else none) = some (parent + indentStep) :=
    fun space => if_pos (hidesIndent_append_of_isSpace areBreaks space)
  obtain ⟨firstLine, column, empty⟩ := readEmptyLines_form areBreaks
    (printable c List.mem_cons_self) notBreak startColumn known needed
  have indent : (if hidesIndent (breaks ++ c :: others) then parent + indentStep
      else max (parent + indentStep) (parent + 1)) = parent + indentStep := by
    split
    · rfl
    · simp [indentStep]
  have suits : chomping.Suits (c :: others) := (Chomping.suits_of_sign sign).of_append breaks
  have enough : others.length + 1 <
      (literalForm (parent + indentStep) false (c :: others) ++ (margin outer ++ body)).length +
        1 := by
    have := length_le_literalForm (parent + indentStep) false (c :: others)
    rw [List.length_append]
    simp only [List.length_cons] at this
    omega
  rw [reads, empty, Option.bind_some]
  dsimp only
  rw [indent]
  exact readLines_form deeper entry others printable notBreak suits enough _ column

/-- A text is read back from a block of lines, if it has printed characters only. -/
theorem readBlock_form (printable : ∀ c ∈ text, isPrintable c = true) (notEmpty : text ≠ []) :
    ∃ next, next.column = outer ∧
      readBlock .literal (some parent) place
          ((literalHeader text).tail ++
            (literalForm (parent + indentStep) true text ++ (margin outer ++ body))) =
        some ⟨text, next, body, false⟩ := by
  obtain ⟨breaks, others, rfl, areBreaks, printedOthers, atWord⟩ := exists_breaks printable
  cases others with
  | nil =>
      rw [List.append_nil] at notEmpty ⊢
      exact readBlock_breaks outside entry place areBreaks notEmpty
  | cons c more => exact readBlock_lines outside entry place areBreaks printedOthers (atWord c rfl)

end Block

end Sbom.Yaml
