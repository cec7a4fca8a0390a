import Mathlib.Algebra.Group.Nat.Defs
import Sbom.Text.Decimal

/-!
# Runs of digits

The decimal text of a number is a run of ASCII digits that is not empty and does not start with a
needless zero. It denotes the number, also with zeros in front.
-/

namespace Sbom.Text

theorem isDigit_iff {c : Char} : isDigit c = true ↔ 48 ≤ c.toNat ∧ c.toNat ≤ 57 := by
  simp only [isDigit, Bool.and_eq_true, decide_eq_true_eq]
  rfl

theorem toNat_decimalDigit : ∀ value < 10, (decimalDigit value).toNat = 48 + value := by decide

theorem isDigit_decimalDigit {value : Nat} (small : value < 10) :
    isDigit (decimalDigit value) = true := by
  rw [isDigit_iff, toNat_decimalDigit value small]
  omega

/-- The decimal text of a number has digits only. -/
theorem isDigit_of_mem_decimal {value : Nat} {c : Char} (member : c ∈ decimal value) :
    isDigit c = true := by
  induction value using decimal.induct with
  | case1 value small =>
      rw [decimal, if_pos small, List.mem_singleton] at member
      exact member ▸ isDigit_decimalDigit small
  | case2 value large inductionHypothesis =>
      rw [decimal, if_neg large, List.mem_append, List.mem_singleton] at member
      rcases member with higher | rfl
      · exact inductionHypothesis higher
      · exact isDigit_decimalDigit (Nat.mod_lt _ (by decide))

/-- Zeros in front of a decimal text leave it a run of digits. -/
theorem isDigit_of_mem_decimalPadded {width value : Nat} {c : Char}
    (member : c ∈ decimalPadded width value) : isDigit c = true := by
  rcases List.mem_append.mp member with zero | digit
  · rw [List.eq_of_mem_replicate zero]
    rfl
  · exact isDigit_of_mem_decimal digit

/-- The decimal text of a number starts with a digit, and with a zero only for zero itself. -/
theorem decimal_eq_cons (value : Nat) :
    ∃ first rest, decimal value = first :: rest ∧ (first = '0' → value = 0) := by
  induction value using decimal.induct with
  | case1 value small =>
      rw [decimal, if_pos small]
      refine ⟨decimalDigit value, [], rfl, fun isZero => ?_⟩
      have code := toNat_decimalDigit value small
      rw [isZero] at code
      exact Nat.add_left_cancel code.symm
  | case2 value large inductionHypothesis =>
      obtain ⟨first, rest, higher, zeroOnly⟩ := inductionHypothesis
      rw [decimal, if_neg large, higher]
      refine ⟨first, rest ++ [decimalDigit (value % 10)], rfl, fun isZero => ?_⟩
      have := zeroOnly isZero
      omega

theorem decimal_ne_nil (value : Nat) : decimal value ≠ [] := by
  obtain ⟨first, rest, written, -⟩ := decimal_eq_cons value
  rw [written]
  exact List.cons_ne_nil first rest

theorem decimalPadded_ne_nil (width value : Nat) : decimalPadded width value ≠ [] :=
  List.append_ne_nil_of_right_ne_nil _ (decimal_ne_nil value)

theorem digitValue_decimalDigit {value : Nat} (small : value < 10) :
    digitValue (decimalDigit value) = value := by
  rw [digitValue, toNat_decimalDigit value small]
  omega

theorem decimalValue_concat (digits : List Char) (c : Char) :
    decimalValue (digits ++ [c]) = decimalValue digits * 10 + digitValue c := by
  simp [decimalValue, decimalValueFrom]

/-- The decimal text of a number denotes it. -/
theorem decimalValue_decimal (value : Nat) : decimalValue (decimal value) = value := by
  induction value using decimal.induct with
  | case1 value small =>
      rw [decimal, if_pos small, ← List.nil_append [_], decimalValue_concat,
        digitValue_decimalDigit small]
      exact Nat.zero_add value
  | case2 value large inductionHypothesis =>
      rw [decimal, if_neg large, decimalValue_concat, inductionHypothesis,
        digitValue_decimalDigit (Nat.mod_lt _ (by decide))]
      omega

theorem decimal_inj {value other : Nat} : decimal value = decimal other ↔ value = other := by
  refine ⟨fun same => ?_, fun same => same ▸ rfl⟩
  rw [← decimalValue_decimal value, same, decimalValue_decimal]

theorem decimalText_inj {value other : Nat} :
    decimalText value = decimalText other ↔ value = other := by
  rw [decimalText, decimalText, String.ofList_inj, decimal_inj]

theorem decimalDigit_eq_digitChar : ∀ value < 10, decimalDigit value = Nat.digitChar value := by
  decide

/-- The decimal text of a number is the one that the standard library gives. -/
theorem decimalText_eq_toString (value : Nat) : decimalText value = toString value := by
  have sameDigits : decimal value = Nat.toDigits 10 value := by
    induction value using decimal.induct with
    | case1 value small =>
        rw [decimal, if_pos small, Nat.toDigits_of_lt_base small,
          decimalDigit_eq_digitChar value small]
    | case2 value large inductionHypothesis =>
        rw [decimal, if_neg large, Nat.toDigits_of_base_le (by decide) (Nat.le_of_not_lt large),
          inductionHypothesis, decimalDigit_eq_digitChar _ (Nat.mod_lt _ (by decide))]
  rw [decimalText, sameDigits, Nat.toString_eq_repr, Nat.repr_eq_ofList_toDigits]

/-- Zeros in front do not count. -/
theorem decimalValue_decimalPadded (width value : Nat) :
    decimalValue (decimalPadded width value) = value := by
  have zeros : ∀ count digits,
      decimalValue (List.replicate count '0' ++ digits) = decimalValue digits := by
    intro count digits
    induction count with
    | zero => rfl
    | succ count inductionHypothesis => exact inductionHypothesis
  rw [decimalPadded, zeros, decimalValue_decimal]

/-- A number has no more digits than the power of ten above it says. -/
theorem length_decimal_le {value width : Nat} (positive : 0 < width) (small : value < 10 ^ width) :
    (decimal value).length ≤ width := by
  induction value using decimal.induct generalizing width with
  | case1 value isDigit =>
      rw [decimal, if_pos isDigit]
      exact positive
  | case2 value large inductionHypothesis =>
      rw [decimal, if_neg large, List.length_append, List.length_singleton]
      obtain ⟨width, rfl⟩ := Nat.exists_eq_succ_of_ne_zero (Nat.ne_of_gt positive)
      cases width with
      | zero => exact absurd small large
      | succ width =>
          have higher : value / 10 < 10 ^ (width + 1) := by
            rw [Nat.div_lt_iff_lt_mul (by decide), ← Nat.pow_succ]
            exact small
          exact Nat.succ_le_succ (inductionHypothesis width.succ_pos higher)

/-- A number below a power of ten is written in as many digits as asked for. -/
theorem length_decimalPadded {value width : Nat} (positive : 0 < width)
    (small : value < 10 ^ width) : (decimalPadded width value).length = width := by
  have := length_decimal_le positive small
  rw [decimalPadded, List.length_append, List.length_replicate]
  omega

end Sbom.Text
