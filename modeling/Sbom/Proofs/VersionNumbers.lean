import Mathlib.Data.Nat.Digits.Defs
import Sbom.Conversion.Header
import Sbom.Proofs.Instants
import Sbom.Proofs.LicenseText

/-!
# Version numbers

A document gives its version as a text. `Writes` says which texts write a number, by their parts
alone: digits, at most one plus sign before them and white space around. The number of digits has no
bound, and neither has what they denote. The version is read in words of 32 bits, digit by digit. A
step that would leave the words ends the reading, so what is read is the number written or nothing
at all, and zeros in front never count.
-/

namespace Sbom.Text

section Trimming

variable {before core after : List Char}

/-- White space before a text that does not start with any is trimmed. -/
theorem trimStart_append (blank : ∀ c ∈ before, isBlank c = true)
    (first : ∀ c ∈ core.head?, isBlank c = false) : trimStart (before ++ core) = core := by
  rw [trimStart, List.dropWhile_append_of_pos blank]
  cases core with
  | nil => rfl
  | cons c rest => exact List.dropWhile_cons_of_neg (by simp [first c rfl])

/-- White space after a text that does not end with any is trimmed. -/
theorem trimEnd_append (blank : ∀ c ∈ after, isBlank c = true)
    (last : ∀ c ∈ core.getLast?, isBlank c = false) : trimEnd (core ++ after) = core := by
  have backwards : trimStart (after.reverse ++ core.reverse) = core.reverse := by
    apply trimStart_append
    · intro c member
      exact blank c (List.mem_reverse.mp member)
    · rw [List.head?_reverse]
      exact last
  rw [trimEnd, List.reverse_append]
  exact (congrArg List.reverse backwards).trans core.reverse_reverse

/-- A text is what is left of it without white space at its ends, and this white space. -/
theorem exists_eq_append_trimmed (text : List Char) :
    ∃ before after, text = before ++ trimmed text ++ after ∧
      (∀ c ∈ before, isBlank c = true) ∧ ∀ c ∈ after, isBlank c = true := by
  refine ⟨text.takeWhile isBlank, (text.dropWhile isBlank).rtakeWhile isBlank, ?_, ?_, ?_⟩
  · rw [trimmed_eq_rdropWhile, List.append_assoc, List.rdropWhile_append_rtakeWhile,
      List.takeWhile_append_dropWhile]
  · intro c member
    exact List.mem_takeWhile_imp member
  · intro c member
    exact List.mem_rtakeWhile_imp member

end Trimming

/-- The number that digits denote is their value in positional notation. -/
theorem decimalValue_eq_ofDigits (digits : List Char) :
    decimalValue digits = Nat.ofDigits 10 (digits.map digitValue).reverse := by
  induction digits using List.reverseRecOn with
  | nil => rfl
  | append_singleton digits c inductionHypothesis =>
      rw [decimalValue_concat, inductionHypothesis, List.map_append, List.map_singleton,
        List.reverse_append, List.reverse_singleton, List.singleton_append, Nat.ofDigits_cons]
      omega

theorem decimalValueFrom_cons (value : Nat) (c : Char) (rest : List Char) :
    decimalValueFrom value (c :: rest) = decimalValueFrom (value * 10 + digitValue c) rest := by
  rw [decimalValueFrom, List.foldl_cons, decimalValueFrom]

/-- More digits make no number smaller. -/
theorem le_decimalValueFrom (value : Nat) (digits : List Char) :
    value ≤ decimalValueFrom value digits := by
  induction digits generalizing value with
  | nil => exact Nat.le_refl value
  | cons c rest inductionHypothesis =>
      rw [decimalValueFrom_cons]
      calc value ≤ value * 10 + digitValue c := by omega
        _ ≤ decimalValueFrom (value * 10 + digitValue c) rest := inductionHypothesis _

end Sbom.Text

namespace Sbom.Number.Word

open Text (digitValue decimalValue decimalValueFrom)

section Arithmetic

variable {left right word : Word}

/-- Every number of 32 bits is that of a word. -/
theorem exists_toNat_eq {number : Nat} (small : number < 2 ^ 32) :
    ∃ word : Word, word.toNat = number :=
  ⟨BitVec.ofNat 32 number, by rw [BitVec.toNat_ofNat, Nat.mod_eq_of_lt small]⟩

/-- What wraps around is left out; everything else is exact. -/
theorem guarded_eq_some_iff {wrapped : Word} {exact : Nat}
    (wraps : wrapped.toNat = exact % 2 ^ 32) :
    (if 2 ^ 32 ≤ exact then none else some wrapped) = some word ↔ word.toNat = exact := by
  have bound := word.isLt
  by_cases fits : exact < 2 ^ 32
  · rw [if_neg (Nat.not_le.mpr fits), Option.some_inj, ← BitVec.toNat_inj, wraps,
      Nat.mod_eq_of_lt fits, eq_comm]
  · rw [if_pos (Nat.not_lt.mp fits)]
    exact iff_of_false (by simp) (by omega)

/-- A checked product is the product as a number. -/
theorem checkedMul?_eq_some_iff :
    checkedMul? left right = some word ↔ word.toNat = left.toNat * right.toNat := by
  simp only [checkedMul?, BitVec.umulOverflow, ge_iff_le, decide_eq_true_eq]
  exact guarded_eq_some_iff (BitVec.toNat_mul left right)

/-- A checked sum is the sum as a number. -/
theorem checkedAdd?_eq_some_iff :
    checkedAdd? left right = some word ↔ word.toNat = left.toNat + right.toNat := by
  simp only [checkedAdd?, BitVec.uaddOverflow, ge_iff_le, decide_eq_true_eq]
  exact guarded_eq_some_iff (BitVec.toNat_add left right)

end Arithmetic

section Signs

variable {sign digits : List Char}

/-- A plus sign is dropped, and a digit is none. -/
theorem dropPlus_append (isSign : sign = [] ∨ sign = ['+'])
    (areDigits : ∀ c ∈ digits, Text.isDigit c = true) : dropPlus (sign ++ digits) = digits := by
  rcases isSign with rfl | rfl
  · rw [List.nil_append]
    fun_cases dropPlus digits with
    | case1 rest => exact absurd (areDigits '+' List.mem_cons_self) (by decide)
    | case2 notPlus => rfl
  · rfl

/-- A text is at most one plus sign and what is left without it. -/
theorem exists_sign (text : List Char) :
    ∃ sign, (sign = [] ∨ sign = ['+']) ∧ text = sign ++ dropPlus text := by
  fun_cases dropPlus text with
  | case1 rest => exact ⟨['+'], .inr rfl, rfl⟩
  | case2 text notPlus => exact ⟨[], .inl rfl, rfl⟩

end Signs

section Reading

variable {total next word : Word} {c : Char}

/-- A digit is a word of its value. -/
theorem digit?_eq_some_iff :
    digit? c = some word ↔ Text.isDigit c = true ∧ word.toNat = digitValue c := by
  rw [digit?]
  cases isDigit : Text.isDigit c with
  | false => simp
  | true =>
      have bounds := Text.isDigit_iff.mp isDigit
      have small : digitValue c < 2 ^ 32 := by
        rw [digitValue]
        omega
      rw [if_pos rfl, Option.some_inj, ← BitVec.toNat_inj, BitVec.toNat_ofNat,
        Nat.mod_eq_of_lt small]
      simp [eq_comm]

/-- One more digit makes the number that it makes without a bound, if this is a word. -/
theorem appendDigit?_eq_some_iff :
    appendDigit? total c = some next ↔
      Text.isDigit c = true ∧ next.toNat = total.toNat * 10 + digitValue c := by
  simp only [appendDigit?, Option.bind_eq_bind, Option.bind_eq_some_iff, checkedMul?_eq_some_iff,
    digit?_eq_some_iff, checkedAdd?_eq_some_iff]
  constructor
  · rintro ⟨shifted, product, digit, ⟨isDigit, value⟩, sum⟩
    refine ⟨isDigit, ?_⟩
    rw [sum, product, value]
    rfl
  · rintro ⟨isDigit, sum⟩
    -- The numbers on the way are below the sum, so they are words.
    have bound := next.isLt
    obtain ⟨shifted, product⟩ := exists_toNat_eq (show total.toNat * 10 < 2 ^ 32 by omega)
    obtain ⟨digit, value⟩ := exists_toNat_eq (show digitValue c < 2 ^ 32 by omega)
    refine ⟨shifted, product, digit, ⟨isDigit, value⟩, ?_⟩
    rw [sum, product, value]

/-- A run of digits makes the number that it makes without a bound, if this is a word. -/
theorem readDigits?_eq_some_iff (digits : List Char) :
    readDigits? total digits = some word ↔
      (∀ c ∈ digits, Text.isDigit c = true) ∧
        word.toNat = decimalValueFrom total.toNat digits := by
  induction digits generalizing total with
  | nil =>
      rw [readDigits?, Option.some_inj, ← BitVec.toNat_inj, eq_comm]
      simp [decimalValueFrom]
  | cons c rest inductionHypothesis =>
      simp only [readDigits?, Option.bind_eq_bind, Option.bind_eq_some_iff,
        appendDigit?_eq_some_iff, inductionHypothesis, List.forall_mem_cons,
        Text.decimalValueFrom_cons]
      constructor
      · rintro ⟨next, ⟨isDigit, sum⟩, areDigits, value⟩
        exact ⟨⟨isDigit, areDigits⟩, by rw [value, sum]⟩
      · rintro ⟨⟨isDigit, areDigits⟩, value⟩
        -- Further digits only make the number greater, so the next one is a word as well.
        have bound := word.isLt
        have grows := Text.le_decimalValueFrom (total.toNat * 10 + digitValue c) rest
        obtain ⟨next, sum⟩ :=
          exists_toNat_eq (show total.toNat * 10 + digitValue c < 2 ^ 32 by omega)
        exact ⟨next, ⟨isDigit, sum⟩, areDigits, by rw [value, sum]⟩

/-- The word of a text is the number that its digits denote, a plus sign aside. -/
theorem parse?_eq_some_iff {text : List Char} :
    parse? text = some word ↔
      dropPlus text ≠ [] ∧ (∀ c ∈ dropPlus text, Text.isDigit c = true) ∧
        word.toNat = decimalValue (dropPlus text) := by
  rw [parse?]
  cases dropPlus text with
  | nil => simp
  | cons c rest =>
      rw [readDigits?_eq_some_iff]
      simp [decimalValue]

end Reading

end Sbom.Number.Word

namespace Sbom.Conversion

open Number (Word)
open Number.Word (dropPlus)
open Text (decimalValue digitValue isBlank isDigit trimmed)

/-- Whether a text writes a number: at least one digit, at most one plus sign before the digits, and
white space around. -/
def Writes (text : List Char) (number : Nat) : Prop :=
  ∃ before sign digits after,
    text = before ++ (sign ++ digits) ++ after ∧
    (∀ c ∈ before, isBlank c = true) ∧ (∀ c ∈ after, isBlank c = true) ∧
    (sign = [] ∨ sign = ['+']) ∧
    digits ≠ [] ∧ (∀ c ∈ digits, isDigit c = true) ∧
    number = Nat.ofDigits 10 (digits.map digitValue).reverse

section Parts

variable {sign digits text : List Char} {number : Nat}

/-- A sign with digits has no white space at its ends. -/
theorem trimmed_signed {before after : List Char} (blankBefore : ∀ c ∈ before, isBlank c = true)
    (blankAfter : ∀ c ∈ after, isBlank c = true) (isSign : sign = [] ∨ sign = ['+'])
    (notEmpty : digits ≠ []) (areDigits : ∀ c ∈ digits, isDigit c = true) :
    trimmed (before ++ (sign ++ digits) ++ after) = sign ++ digits := by
  have notBlank : ∀ c ∈ sign ++ digits, isBlank c = false := by
    intro c member
    rcases List.mem_append.mp member with inSign | inDigits
    · rcases isSign with rfl | rfl
      · exact absurd inSign List.not_mem_nil
      · rw [List.mem_singleton.mp inSign]
        decide
    · exact Calendar.isBlank_of_isDigit (areDigits c inDigits)
  have starts : Text.trimStart (before ++ (sign ++ digits ++ after)) = sign ++ digits ++ after := by
    apply Text.trimStart_append blankBefore
    intro c isHead
    apply notBlank
    have nonempty : sign ++ digits ≠ [] := List.append_ne_nil_of_right_ne_nil sign notEmpty
    rw [List.head?_append_of_ne_nil _ nonempty] at isHead
    exact List.mem_of_mem_head? isHead
  rw [trimmed, List.append_assoc, starts]
  apply Text.trimEnd_append blankAfter
  intro c isLast
  exact notBlank c (List.mem_of_mem_getLast? isLast)

/-- A text writes the number that its digits denote once it is trimmed and rid of its sign. -/
theorem writes_iff :
    Writes text number ↔
      dropPlus (trimmed text) ≠ [] ∧ (∀ c ∈ dropPlus (trimmed text), isDigit c = true) ∧
        number = decimalValue (dropPlus (trimmed text)) := by
  constructor
  · rintro ⟨before, sign, digits, after, rfl, blankBefore, blankAfter, isSign, notEmpty, areDigits,
      value⟩
    rw [trimmed_signed blankBefore blankAfter isSign notEmpty areDigits,
      Word.dropPlus_append isSign areDigits, Text.decimalValue_eq_ofDigits]
    exact ⟨notEmpty, areDigits, value⟩
  · rintro ⟨notEmpty, areDigits, value⟩
    obtain ⟨before, after, parts, blankBefore, blankAfter⟩ := Text.exists_eq_append_trimmed text
    obtain ⟨sign, isSign, signed⟩ := Word.exists_sign (trimmed text)
    refine ⟨before, sign, dropPlus (trimmed text), after, ?_, blankBefore, blankAfter, isSign,
      notEmpty, areDigits, ?_⟩
    · rw [← signed]
      exact parts
    · rw [← Text.decimalValue_eq_ofDigits]
      exact value

/-- The word of a trimmed text is the number that the text writes. -/
theorem parse?_trimmed_eq_some_iff {word : Word} :
    Word.parse? (trimmed text) = some word ↔ Writes text word.toNat := by
  rw [Word.parse?_eq_some_iff, writes_iff]

/-- A text writes one number at most. -/
theorem Writes.unique {other : Nat} (writes : Writes text number)
    (writesOther : Writes text other) : number = other := by
  obtain ⟨-, -, value⟩ := writes_iff.mp writes
  obtain ⟨-, -, otherValue⟩ := writes_iff.mp writesOther
  exact value.trans otherValue.symm

end Parts

/-- The version of a document is the number that its text writes, if this is positive and has at
most 32 bits. If it is not, or if the text writes no number, the version is one. -/
theorem documentVersion_writes (metadata : Graph.Metadata) :
    (∀ number, Writes metadata.version.toList number →
      documentVersion metadata = if 1 ≤ number ∧ number < 2 ^ 32 then number else 1) ∧
    ((∀ number, ¬ Writes metadata.version.toList number) → documentVersion metadata = 1) ∧
    1 ≤ documentVersion metadata ∧ documentVersion metadata < 2 ^ 32 := by
  rw [documentVersion]
  cases parsed : Word.parse? (trimmed metadata.version.toList) with
  | none =>
      refine ⟨fun number writes => ?_, fun _ => rfl, by decide, by decide⟩
      rw [if_neg]
      rintro ⟨-, small⟩
      -- A number of at most 32 bits would have been read.
      obtain ⟨word, rfl⟩ := Word.exists_toNat_eq small
      rw [← parse?_trimmed_eq_some_iff, parsed] at writes
      cases writes
  | some word =>
      have writesWord := parse?_trimmed_eq_some_iff.mp parsed
      have bound := word.isLt
      dsimp only
      by_cases isZero : word = 0
      · rw [if_pos isZero]
        refine ⟨fun number writes => ?_, fun _ => rfl, by decide, by decide⟩
        have numberIsZero : number = 0 := by
          rw [writes.unique writesWord, isZero]
          rfl
        rw [if_neg (by omega)]
      · have positive : 1 ≤ word.toNat := by
          rw [Nat.one_le_iff_ne_zero]
          exact fun zero => isZero (BitVec.toNat_inj.mp zero)
        rw [if_neg isZero]
        refine ⟨fun number writes => ?_, fun writesNone => absurd writesWord (writesNone _),
          positive, bound⟩
        rw [writes.unique writesWord, if_pos ⟨positive, bound⟩]

/-- The greatest version is read with a sign, zeros and white space around it. The number after it
stands for one, and so does a text with white space between its digits. -/
theorem documentVersion_writes_greatest :
    (Writes "\u3000+004294967295\n".toList 4294967295 ∧
      documentVersion { version := "\u3000+004294967295\n" } = 4294967295) ∧
    (Writes "4294967296".toList 4294967296 ∧ documentVersion { version := "4294967296" } = 1) ∧
    (∀ number, ¬ Writes "1 2".toList number) ∧ documentVersion { version := "1 2" } = 1 := by
  have greatest : Writes "\u3000+004294967295\n".toList 4294967295 :=
    writes_iff.mpr ⟨by decide, List.all_eq_true.mp (by decide), by decide⟩
  have further : Writes "4294967296".toList 4294967296 :=
    writes_iff.mpr ⟨by decide, List.all_eq_true.mp (by decide), by decide⟩
  have apart : ∀ number, ¬ Writes "1 2".toList number := by
    intro number writes
    have areDigits := (writes_iff.mp writes).2.1
    exact absurd (areDigits ' ' (by decide)) (by decide)
  have readsGreatest :=
    (documentVersion_writes { version := "\u3000+004294967295\n" }).1 _ greatest
  have readsFurther := (documentVersion_writes { version := "4294967296" }).1 _ further
  have readsApart := (documentVersion_writes { version := "1 2" }).2.1 apart
  exact ⟨⟨greatest, readsGreatest.trans (by decide)⟩, ⟨further, readsFurther.trans (by decide)⟩,
    apart, readsApart⟩

end Sbom.Conversion
