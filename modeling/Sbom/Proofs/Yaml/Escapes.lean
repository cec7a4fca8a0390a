import Mathlib.Algebra.Group.Nat.Defs
import Sbom.Yaml.ScalarForm

/-!
# Printed characters and escapes

A writer prints fewer characters than a reader accepts: a printed line break is one that a reader
keeps as it is, and a printed blank is a space. Every other character has an escape, and the reader
of escapes gives that character back, whatever its code point.
-/

namespace Sbom.Yaml

variable {c : Char}

/-! ## Printed characters -/

theorem isReadable_of_isPrintable (printable : isPrintable c = true) : isReadable c = true := by
  simp only [isPrintable, isReadable, Bool.or_eq_true, Bool.and_eq_true, decide_eq_true_eq,
    beq_iff_eq, bne_iff_ne] at printable ⊢
  omega

theorem ne_return_of_isPrintable (printable : isPrintable c = true) : c ≠ '\r' := by
  rintro rfl
  exact absurd printable (by decide)

theorem beq_tab_of_isPrintable (printable : isPrintable c = true) : (c == '\t') = false := by
  rw [beq_eq_false_iff_ne]
  rintro rfl
  exact absurd printable (by decide)

/-- A printed blank is a space. -/
theorem isBlank_eq_isSpace (printable : isPrintable c = true) : isBlank c = isSpace c := by
  rw [isBlank, beq_tab_of_isPrintable printable, Bool.or_false, isSpace]

/-- A printed line break keeps its identity where it is read. -/
theorem meantBreak_of_isPrintable (printable : isPrintable c = true) (isLineBreak : isBreak c = true) :
    meantBreak c = c := by
  have kinds : c = '\n' ∨ c.toNat = 0x2028 ∨ c.toNat = 0x2029 := by
    simp only [isBreak, Bool.or_eq_true, beq_iff_eq] at isLineBreak
    rcases isLineBreak with (((feed | carriage) | nextLine) | separator) | separator
    · exact .inl feed
    · exact absurd carriage (ne_return_of_isPrintable printable)
    · simp [isPrintable, nextLine] at printable
    · exact .inr (.inl separator)
    · exact .inr (.inr separator)
  rcases kinds with rfl | separator | separator
  · rfl
  · simp [meantBreak, separator]
  · simp [meantBreak, separator]

/-- A space is no line break. -/
theorem isBreak_of_isSpace (space : isSpace c = true) : isBreak c = false := by
  rw [isSpace, beq_iff_eq] at space
  rw [space]
  decide

/-! ## Hexadecimal digits -/

theorem hexValue?_hexDigitUpper : ∀ value < 16,
    Text.hexValue? (Text.hexDigitUpper value) = some value := by
  decide

theorem hexNumber?_concat (digits : List Char) (digit : Char) :
    hexNumber? (digits ++ [digit]) =
      (hexNumber? digits).bind fun value =>
        (Text.hexValue? digit).map fun last => value * 16 + last := by
  rw [hexNumber?, List.foldl_append]
  rfl

/-- The digits of a number denote it. -/
theorem hexNumber?_hexDigitsWith (value : Nat) :
    hexNumber? (Text.hexDigitsWith Text.hexDigitUpper value) = some value := by
  induction value using Nat.strongRecOn with
  | _ value inductionHypothesis =>
      rw [Text.hexDigitsWith]
      split
      case isTrue small => simp [hexNumber?, hexValue?_hexDigitUpper value small]
      case isFalse large =>
        have last : value % 16 < 16 := Nat.mod_lt _ (by decide)
        rw [hexNumber?_concat, inductionHypothesis (value / 16) (by omega), Option.bind_some,
          hexValue?_hexDigitUpper _ last, Option.map_some, Nat.div_add_mod']

/-- Zeros in front do not change the number. -/
theorem hexNumber?_zeros_append (count : Nat) (digits : List Char) :
    hexNumber? (List.replicate count '0' ++ digits) = hexNumber? digits := by
  induction count with
  | zero => rfl
  | succ count inductionHypothesis =>
      rw [List.replicate_succ, List.cons_append, ← inductionHypothesis]
      rfl

theorem length_hexDigitsWith_le {width value : Nat} (positive : 0 < width)
    (small : value < 16 ^ width) :
    (Text.hexDigitsWith Text.hexDigitUpper value).length ≤ width := by
  induction width generalizing value with
  | zero => omega
  | succ width inductionHypothesis =>
      rw [Text.hexDigitsWith]
      split
      case isTrue single => simp
      case isFalse large =>
        rw [Nat.pow_succ] at small
        have fewer : value / 16 < 16 ^ width := Nat.div_lt_of_lt_mul (by omega)
        have more : 0 < width := by
          rcases width with - | width
          · omega
          · exact Nat.succ_pos width
        rw [List.length_append, List.length_singleton]
        exact Nat.succ_le_succ (inductionHypothesis more fewer)

/-- A number that fits takes exactly the width that it is padded to. -/
theorem length_hexUpperPadded {width value : Nat} (positive : 0 < width)
    (small : value < 16 ^ width) : (Text.hexUpperPadded width value).length = width := by
  have fits := length_hexDigitsWith_le positive small
  rw [Text.hexUpperPadded, Text.padZeros, List.length_append, List.length_replicate]
  omega

/-- The padded digits of a code point denote the character. -/
theorem hexChar?_hexUpperPadded (width : Nat) (c : Char) :
    hexChar? (Text.hexUpperPadded width c.toNat) = some c := by
  have scalar : ¬ ((0xD800 ≤ c.toNat ∧ c.toNat ≤ 0xDFFF) ∨ 0x10FFFF < c.toNat) := by
    have valid : c.toNat < 0xD800 ∨ 0xDFFF < c.toNat ∧ c.toNat < 0x110000 := c.valid
    omega
  rw [hexChar?, Text.hexUpperPadded, Text.padZeros, hexNumber?_zeros_append,
    hexNumber?_hexDigitsWith, Option.bind_some, if_neg (by simpa using scalar), Char.ofNat_toNat]

end Sbom.Yaml
