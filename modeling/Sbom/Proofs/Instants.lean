import Sbom.Calendar.Reader
import Sbom.Proofs.Digits

/-!
# Reading written instants

Every part of a written instant is read back: the year with or without a sign, numbers of two digits
between marks, the fraction in three, six or nine digits or none, and the letter for UTC. So the text
of an instant is read as that instant, leap seconds and far years included.
-/

namespace Sbom.Calendar

section Numbers

variable {limit : Nat} {digits rest : List Char}

/-- Digits are read up to the limit, or to where no digit follows. -/
theorem readNumber_append (areDigits : ∀ c ∈ digits, Text.isDigit c = true) (notEmpty : digits ≠ [])
    (fits : digits.length ≤ limit)
    (ends : (rest.take (limit - digits.length)).takeWhile Text.isDigit = []) :
    readNumber limit (digits ++ rest) = .ok (digits, rest) := by
  have run : digitRun limit (digits ++ rest) = digits := by
    rw [digitRun, List.take_append, List.take_of_length_le fits,
      List.takeWhile_append_of_pos areDigits, ends, List.append_nil]
  unfold readNumber
  split
  case h_1 isEmpty => exact absurd (List.append_eq_nil_iff.mp isEmpty).1 notEmpty
  case h_2 =>
    rw [run]
    split
    case h_1 => exact absurd rfl notEmpty
    case h_2 => rw [List.drop_left]

/-- Exactly as many digits as the limit says are read, whatever follows. -/
theorem readNumber_of_length (areDigits : ∀ c ∈ digits, Text.isDigit c = true)
    (notEmpty : digits ≠ []) (exactly : digits.length = limit) :
    readNumber limit (digits ++ rest) = .ok (digits, rest) :=
  readNumber_append areDigits notEmpty (Nat.le_of_eq exactly) (by simp [exactly])

/-- Digits are read to the mark that ends them. -/
theorem readNumber_of_mark {mark : Char} (areDigits : ∀ c ∈ digits, Text.isDigit c = true)
    (notEmpty : digits ≠ []) (fits : digits.length ≤ limit) (noDigit : Text.isDigit mark = false) :
    readNumber limit (digits ++ mark :: rest) = .ok (digits, mark :: rest) := by
  refine readNumber_append areDigits notEmpty fits ?_
  cases limit - digits.length with
  | zero => rfl
  | succ more => rw [List.take_succ_cons, List.takeWhile_cons_of_neg (by simp [noDigit])]

/-- A text that starts with digits starts with no sign. -/
theorem isDigit_of_append_eq_cons {c : Char} {tail : List Char}
    (areDigits : ∀ c ∈ digits, Text.isDigit c = true) (notEmpty : digits ≠ [])
    (same : digits ++ rest = c :: tail) : Text.isDigit c = true := by
  cases digits with
  | nil => exact absurd rfl notEmpty
  | cons first others =>
      obtain ⟨rfl, -⟩ := List.cons.inj same
      exact areDigits _ List.mem_cons_self

end Numbers

section Blanks

variable {c : Char} {rest : List Char}

/-- A text that starts with something else than white space has none to drop. -/
theorem trimStart_cons (notBlank : Text.isBlank c = false) :
    Text.trimStart (c :: rest) = c :: rest :=
  List.dropWhile_cons_of_neg (by simp [notBlank])

theorem isBlank_of_isDigit (digit : Text.isDigit c = true) : Text.isBlank c = false := by
  have bounds := Text.isDigit_iff.mp digit
  simp only [Text.isBlank, Bool.or_eq_false_iff, Bool.and_eq_false_iff, decide_eq_false_iff_not,
    beq_eq_false_iff_ne]
  omega

theorem trimStart_digits {digits : List Char} (areDigits : ∀ c ∈ digits, Text.isDigit c = true)
    (notEmpty : digits ≠ []) : Text.trimStart (digits ++ rest) = digits ++ rest := by
  cases digits with
  | nil => exact absurd rfl notEmpty
  | cons first others =>
      exact trimStart_cons (isBlank_of_isDigit (areDigits first List.mem_cons_self))

theorem readChar_trimStart (notBlank : Text.isBlank c = false) :
    readChar c (Text.trimStart (c :: rest)) = .ok rest := by
  rw [trimStart_cons notBlank]
  exact if_pos rfl

end Blanks

section Parts

variable {rest : List Char}

theorem isDigit_of_mem_padded (width value : Nat) :
    ∀ c ∈ Text.decimalPadded width value, Text.isDigit c = true :=
  fun _ => Text.isDigit_of_mem_decimalPadded

/-- A number of two digits is read back if it is between the bounds. -/
theorem readField_padded (low high value : Nat) (rest : List Char)
    (bounds : low ≤ value ∧ value ≤ high ∧ high < 100) :
    readField low high (Text.decimalPadded 2 value ++ rest) = .ok (value, rest) := by
  obtain ⟨atLeast, atMost, small⟩ := bounds
  have width : (Text.decimalPadded 2 value).length = 2 :=
    Text.length_decimalPadded (by decide) (by omega)
  have areDigits := isDigit_of_mem_padded 2 value
  have notEmpty := Text.decimalPadded_ne_nil 2 value
  rw [readField, trimStart_digits areDigits notEmpty,
    readNumber_of_length areDigits notEmpty width]
  simp [bind, Except.bind, Text.decimalValue_decimalPadded, atLeast, atMost, pure, Except.pure]

/-- A year is read back: four digits as they are, and any number of digits after a sign. -/
theorem readYear_yearText {year : Int} (supported : firstYear ≤ year ∧ year ≤ lastYear) :
    readYear (yearText year ++ '-' :: rest) = .ok (year, '-' :: rest) := by
  have bounded : -2147483648 ≤ year ∧ year ≤ 2147483647 := by
    obtain ⟨atLeast, atMost⟩ := supported
    unfold firstYear at atLeast
    unfold lastYear at atMost
    omega
  have areDigits := isDigit_of_mem_padded 4 year.natAbs
  have notEmpty := Text.decimalPadded_ne_nil 4 year.natAbs
  have value := Text.decimalValue_decimalPadded 4 year.natAbs
  have toSign : readNumber (Text.decimalPadded 4 year.natAbs ++ '-' :: rest).length
      (Text.decimalPadded 4 year.natAbs ++ '-' :: rest) = .ok _ :=
    readNumber_of_mark areDigits notEmpty (by simp) rfl
  unfold yearText
  split
  case isTrue unsigned =>
    have width : (Text.decimalPadded 4 year.natAbs).length = 4 :=
      Text.length_decimalPadded (by decide) (by omega)
    have exact : ((year.natAbs : Nat) : Int) = year := by omega
    rw [readYear, trimStart_digits areDigits notEmpty]
    simp only [bind, Except.bind]
    split
    case h_1 signed => exact absurd (isDigit_of_append_eq_cons areDigits notEmpty signed) (by decide)
    case h_2 signed => exact absurd (isDigit_of_append_eq_cons areDigits notEmpty signed) (by decide)
    case h_3 =>
      rw [readNumber_of_length areDigits notEmpty width]
      simp only [pure, Except.pure, value, exact, bounded, and_self, if_true]
  case isFalse outside =>
    by_cases negative : year < 0
    · have exact : -((year.natAbs : Nat) : Int) = year := by omega
      rw [if_pos negative, List.cons_append, readYear, trimStart_cons rfl]
      simp only [bind, Except.bind, toSign]
      simp only [pure, Except.pure, value, exact, bounded, and_self, if_true]
    · have exact : ((year.natAbs : Nat) : Int) = year := by omega
      rw [if_neg negative, List.cons_append, readYear, trimStart_cons rfl]
      simp only [bind, Except.bind, toSign]
      simp only [pure, Except.pure, value, exact, bounded, and_self, if_true]

/-- A fraction of at most nine digits is read back. -/
theorem readFraction_padded {width value : Nat} (positive : 0 < width) (atMost : width ≤ 9)
    (small : value < 10 ^ width) :
    readFraction ('.' :: (Text.decimalPadded width value ++ 'Z' :: rest)) =
      .ok (value * 10 ^ (9 - width), 'Z' :: rest) := by
  have length := Text.length_decimalPadded positive small
  rw [readFraction, readNumber_of_mark (isDigit_of_mem_padded width value)
    (Text.decimalPadded_ne_nil width value) (Nat.le_trans (Nat.le_of_eq length) atMost) rfl]
  simp [bind, Except.bind, pure, Except.pure, Text.decimalValue_decimalPadded, length,
    Text.isDigit]

/-- The written fraction of a second is read back. -/
theorem readFraction_fractionText {nanosecond : Nat} (small : nanosecond < 1000000000) :
    readFraction (fractionText nanosecond ++ 'Z' :: rest) = .ok (nanosecond, 'Z' :: rest) := by
  unfold fractionText
  split
  case isTrue none => rw [none]; rfl
  case isFalse =>
    split
    case isTrue millis =>
      rw [List.cons_append, readFraction_padded (by decide) (by decide) (by omega)]
      congr 2
      omega
    case isFalse =>
      split
      case isTrue micros =>
        rw [List.cons_append, readFraction_padded (by decide) (by decide) (by omega)]
        congr 2
        omega
      case isFalse =>
        rw [List.cons_append, readFraction_padded (by decide) (by decide) (by omega)]
        congr 2
        omega

end Parts

namespace Instant

theorem daysInMonth_le (year : Int) (month : Nat) : daysInMonth year month ≤ 31 := by
  unfold daysInMonth
  split
  case h_1 => split <;> decide
  all_goals decide

/-- The parts of an instant as its text has them. -/
def written (instant : Instant) : Written where
  year := instant.date.year
  month := instant.date.month
  day := instant.date.day
  hour := instant.hour
  minute := instant.minute
  second := instant.second
  nanosecond := instant.nanosecond
  offset := 0

theorem readWritten_text (instant : Instant) :
    readWritten instant.text.toList = .ok (instant.written, []) := by
  have dayAtMost : instant.date.day ≤ 31 :=
    Nat.le_trans instant.date.day_inRange.2 (daysInMonth_le _ _)
  have month := fun rest => readField_padded 1 12 instant.date.month rest
    ⟨instant.date.month_inRange.1, instant.date.month_inRange.2, by decide⟩
  have day := fun rest => readField_padded 1 31 instant.date.day rest
    ⟨instant.date.day_inRange.1, dayAtMost, by decide⟩
  have hour := fun rest => readField_padded 0 23 instant.hour rest
    ⟨Nat.zero_le _, Nat.le_of_lt_succ instant.hour_lt, by decide⟩
  have minute := fun rest => readField_padded 0 59 instant.minute rest
    ⟨Nat.zero_le _, Nat.le_of_lt_succ instant.minute_lt, by decide⟩
  have second := fun rest => readField_padded 0 60 instant.second rest
    ⟨Nat.zero_le _, instant.second_le, by decide⟩
  have dash : ∀ rest, readChar '-' (Text.trimStart ('-' :: rest)) = .ok rest :=
    fun _ => readChar_trimStart rfl
  have colon : ∀ rest, readChar ':' (Text.trimStart (':' :: rest)) = .ok rest :=
    fun _ => readChar_trimStart rfl
  have separator : ∀ rest, readSeparator ('T' :: rest) = .ok rest := by
    simp [readSeparator]
  have offset : readOffset ['Z'] = .ok (0, []) := rfl
  rw [text, String.toList_ofList, textWith]
  simp only [List.append_assoc, List.cons_append]
  rw [readWritten, readYear_yearText instant.date.year_inRange]
  simp only [bind, Except.bind, dash, colon, month, day, hour, minute, second, separator,
    readFraction_fractionText instant.nanosecond_lt, offset]
  rfl

/-- An instant is found from its day and the minute of it. -/
theorem atMinute?_self (instant : Instant) :
    atMinute? instant.date (instant.hour * 60 + instant.minute) instant.second
      instant.nanosecond = some instant := by
  have hourBound := instant.hour_lt
  have minuteBound := instant.minute_lt
  have notBefore : ¬ ((instant.hour * 60 + instant.minute : Int) < 0) := by omega
  have notAfter : ¬ ((1440 : Int) ≤ instant.hour * 60 + instant.minute) := by omega
  have minutes : ((instant.hour * 60 + instant.minute : Int) % 1440).toNat =
      instant.hour * 60 + instant.minute := by omega
  have hour : (instant.hour * 60 + instant.minute) / 60 = instant.hour := by omega
  have minute : (instant.hour * 60 + instant.minute) % 60 = instant.minute := by omega
  simp [atMinute?, notBefore, notAfter, minutes, hour, minute, instant.hour_lt, instant.second_le,
    instant.nanosecond_lt]

/-- The text of an instant is read as the instant. -/
theorem parse_text (instant : Instant) : Instant.parse instant.text = .ok instant := by
  rw [parse, readWritten_text]
  simp [bind, Except.bind, Written.instant, written, instant.date.ofYmd?_self, atMinute?_self,
    Text.trimStart]

/-- No two instants have the same text. -/
theorem text_inj {instant other : Instant} : instant.text = other.text ↔ instant = other := by
  refine ⟨fun same => ?_, fun same => same ▸ rfl⟩
  exact Except.ok.inj (instant.parse_text.symm.trans (same ▸ other.parse_text))

end Instant

end Sbom.Calendar
