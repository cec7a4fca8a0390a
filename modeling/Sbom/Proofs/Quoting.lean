import Sbom.Json.Draft
import Sbom.Proofs.Digits

/-!
# Reading strings and numbers back

A quoted text is read as the characters it was made from, whatever these are, and a natural number as
its decimal digits, as long as the text after it does not go on with the number.
-/

namespace Sbom.Json

theorem fourHex?_control : ∀ code < 32,
    fourHex? ['0', '0', Text.hexDigit (code / 16), Text.hexDigit (code % 16)] =
      some (code, []) := by
  decide

/-- A character is read from its escape, or from itself if it is written as it is. -/
theorem readUnits_escapeChar (c : Char) (rest : List Char) :
    readUnits (escapeChar c ++ rest) =
      (readUnits rest).map fun (units, tail) => (.scalar c :: units, tail) := by
  have char : ∀ {d : Char}, c.toNat = d.toNat → d = c := fun same => (Char.toNat_inj.mp same).symm
  unfold escapeChar
  split
  case h_1 code => cases char (d := '\x22') code; rfl
  case h_2 code => cases char (d := '\\') code; rfl
  case h_3 code => cases char (d := '\x08') code; rfl
  case h_4 code => cases char (d := '\t') code; rfl
  case h_5 code => cases char (d := '\n') code; rfl
  case h_6 code => cases char (d := '\x0c') code; rfl
  case h_7 code => cases char (d := '\r') code; rfl
  case h_8 notQuote notBackslash _ _ _ _ _ =>
    split
    case isTrue control =>
      have unit : unitOfCode c.toNat = .scalar c := by
        rw [unitOfCode, if_neg (by omega), Char.ofNat_toNat]
      simp [readUnits, fourHex?_control c.toNat control, unit]
    case isFalse printed =>
      have notMark : c ≠ '\x22' ∧ c ≠ '\\' := by
        constructor
        · rintro rfl; exact notQuote rfl
        · rintro rfl; exact notBackslash rfl
      simp [readUnits, notMark, printed]

/-- A quoted text is read back, whatever characters it has. -/
theorem readString_quote (text : String) (rest : List Char) :
    readString (text.toList.flatMap escapeChar ++ '\x22' :: rest) = some (some text, rest) := by
  have units : ∀ characters : List Char,
      readUnits (characters.flatMap escapeChar ++ '\x22' :: rest) =
        some (characters.map .scalar, rest) := by
    intro characters
    induction characters with
    | nil => rfl
    | cons c others inductionHypothesis =>
        rw [List.flatMap_cons, List.append_assoc, readUnits_escapeChar, inductionHypothesis]
        rfl
  have joined : ∀ characters : List Char,
      joinUnits (characters.map .scalar) = some characters := by
    intro characters
    induction characters with
    | nil => rfl
    | cons c others inductionHypothesis =>
        rw [List.map_cons, joinUnits, inductionHypothesis, Option.map_some]
  simp [readString, units, joined]

/-- Whether a number ends before a text. -/
def EndsNumber (rest : List Char) : Prop :=
  ∀ c ∈ rest.head?, Text.isDigit c = false ∧ c ≠ '.' ∧ c ≠ 'e' ∧ c ≠ 'E'

theorem digits_append {run rest : List Char} (isRun : ∀ c ∈ run, Text.isDigit c = true)
    (ends : EndsNumber rest) : digits (run ++ rest) = (run, rest) := by
  have noDigit : rest.takeWhile Text.isDigit = [] ∧ rest.dropWhile Text.isDigit = rest := by
    cases rest with
    | nil => exact ⟨rfl, rfl⟩
    | cons c others =>
        have first := (ends c rfl).1
        simp [first]
  rw [digits, List.takeWhile_append_of_pos isRun, List.dropWhile_append_of_pos isRun, noDigit.1,
    noDigit.2, List.append_nil]

/-- The decimal text of a number is read as the number that writes it. -/
theorem readNumber_decimal (value : Nat) {rest : List Char} (ends : EndsNumber rest) :
    readNumber false (Text.decimal value ++ rest) = some (.ofNat value, rest) := by
  have run : digits (Text.decimal value ++ rest) = (Text.decimal value, rest) :=
    digits_append (fun c member => Text.isDigit_of_mem_decimal member) ends
  have whole : wholePart? (Text.decimal value ++ rest) = some (Text.decimal value, rest) := by
    obtain ⟨first, others, spelled, zeroOnly⟩ := Text.decimal_eq_cons value
    unfold wholePart?
    rw [run]
    split
    case h_1 none => simp [spelled] at none
    case h_2 second more tail longer =>
      -- A leading zero is the only digit.
      cases (Prod.mk.inj longer).1.symm.trans spelled
      cases zeroOnly rfl
      rw [Text.decimal] at spelled
      simp at spelled
    case h_3 => rfl
  have fraction : fractionPart? rest = some (none, rest) := by
    unfold fractionPart?
    split
    case h_1 point => exact absurd rfl (ends '.' rfl).2.1
    case h_2 => rfl
  have exponent : exponentPart? rest = some (none, rest) := by
    unfold exponentPart?
    split
    case h_1 small => exact absurd rfl (ends 'e' rfl).2.2.1
    case h_2 capital => exact absurd rfl (ends 'E' rfl).2.2.2
    case h_3 => rfl
  simp [readNumber, whole, fraction, exponent, Number.ofNat]

end Sbom.Json
