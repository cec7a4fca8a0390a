import Sbom.Xml.Token

/-!
# Escaped text

A markup character is written as a reference and any other character as itself. So escaped text has no
markup, the references in it resolve to the text it was made from, and XML can carry it if XML can
carry that text.
-/

namespace Sbom.Xml

/-- Whether XML can carry every character of a text. -/
def IsXmlString (text : String) : Prop :=
  ∀ c ∈ text.toList, IsChar c

instance (text : String) : Decidable (IsXmlString text) :=
  List.decidableBAll _ _

/-- The test of the writer accepts the characters of XML and no others. -/
theorem isXmlChar_iff {c : Char} : isXmlChar c = true ↔ IsChar c := by
  have bounded : c.toNat < 0xD800 ∨ 0xDFFF < c.toNat ∧ c.toNat < 0x110000 := c.valid
  simp only [isXmlChar, IsChar, Bool.or_eq_true, Bool.and_eq_true, beq_iff_eq, decide_eq_true_eq]
  omega

/-- Printable ASCII characters can be written as XML. -/
theorem isChar_of_ascii {c : Char} (lower : 32 ≤ c.toNat) (upper : c.toNat ≤ 126) : IsChar c := by
  unfold IsChar
  omega

/-- A character is written as the reference that stands for it, or it is no markup and written as
itself. -/
theorem escapeChar_cases (c : Char) :
    (∃ reference, (reference, c) ∈ references ∧ escapeChar c = '&' :: (reference ++ [';'])) ∨
      (c ≠ '<' ∧ c ≠ '&' ∧ c ≠ '\x22' ∧ escapeChar c = [c]) := by
  have char : ∀ {d : Char}, c.toNat = d.toNat → d = c := fun same => (Char.toNat_inj.mp same).symm
  unfold escapeChar
  split
  case h_1 code => cases char (d := '<') code; exact .inl ⟨['l', 't'], by decide, rfl⟩
  case h_2 code => cases char (d := '>') code; exact .inl ⟨['g', 't'], by decide, rfl⟩
  case h_3 code => cases char (d := '&') code; exact .inl ⟨['a', 'm', 'p'], by decide, rfl⟩
  case h_4 code => cases char (d := '\'') code; exact .inl ⟨['a', 'p', 'o', 's'], by decide, rfl⟩
  case h_5 code => cases char (d := '\x22') code; exact .inl ⟨['q', 'u', 'o', 't'], by decide, rfl⟩
  case h_6 notLess _ notAmpersand _ notDouble =>
    refine .inr ⟨?_, ?_, ?_, rfl⟩
    · rintro rfl; exact notLess rfl
    · rintro rfl; exact notAmpersand rfl
    · rintro rfl; exact notDouble rfl

theorem lookup_of_mem_references : ∀ pair ∈ references, references.lookup pair.1 = some pair.2 := by
  decide

/-- A reference is written with small letters. -/
theorem small_of_mem_references {pair : List Char × Char} (isReference : pair ∈ references) :
    ∀ c ∈ pair.1, 97 ≤ c.toNat ∧ c.toNat ≤ 122 := by
  have small : ∀ pair ∈ references, pair.1.all (fun c => 97 ≤ c.toNat ∧ c.toNat ≤ 122) = true := by
    decide
  simpa using small pair isReference

/-- A reference that started is read up to its semicolon. -/
theorem unescapeFrom?_reference {text rest seen : List Char} {c : Char} (inside : ';' ∉ text)
    (stands : references.lookup (seen ++ text) = some c) :
    unescapeFrom? (some seen) (text ++ ';' :: rest) = (unescapeFrom? none rest).map (c :: ·) := by
  induction text generalizing seen with
  | nil =>
      rw [List.append_nil] at stands
      simp [unescapeFrom?, stands]
  | cons first others inductionHypothesis =>
      simp only [List.mem_cons, not_or] at inside
      rw [List.cons_append, unescapeFrom?, if_neg (Ne.symm inside.1)]
      exact inductionHypothesis inside.2 (by rwa [List.append_assoc, List.singleton_append])

theorem unescapeFrom?_escapeChar (c : Char) (rest : List Char) :
    unescapeFrom? none (escapeChar c ++ rest) = (unescapeFrom? none rest).map (c :: ·) := by
  rcases escapeChar_cases c with ⟨reference, member, written⟩ | ⟨-, notAmpersand, -, written⟩
  · have stands := lookup_of_mem_references _ member
    have closed : ';' ∉ reference := fun mark =>
      absurd (small_of_mem_references member _ mark) (by decide)
    rw [written, List.cons_append, List.append_assoc, unescapeFrom?, if_pos rfl]
    exact unescapeFrom?_reference closed stands
  · rw [written, List.singleton_append, unescapeFrom?, if_neg notAmpersand]

/-- Escaped text stands for the text it was made from. -/
theorem unescape?_escape (text : String) : unescape? (escape text) = some text.toList := by
  unfold unescape? escape
  induction text.toList with
  | nil => rfl
  | cons c rest inductionHypothesis =>
      rw [List.flatMap_cons, unescapeFrom?_escapeChar, inductionHypothesis, Option.map_some]

/-- What holds of the marks and the letters of references, and of the characters of a text that are no
markup, holds of the escaped text. -/
theorem forall_mem_escape {holds : Char → Prop} {text : String} (ampersand : holds '&')
    (semicolon : holds ';') (letter : ∀ c : Char, 97 ≤ c.toNat ∧ c.toNat ≤ 122 → holds c)
    (plain : ∀ c ∈ text.toList, c ≠ '<' → c ≠ '\x22' → holds c) :
    ∀ c ∈ escape text, holds c := by
  rw [escape, List.forall_mem_flatMap]
  intro c member
  rcases escapeChar_cases c with ⟨reference, isReference, written⟩ | ⟨notLess, -, notQuote, written⟩
  · have named : ∀ d ∈ reference, holds d :=
      fun d isLetter => letter d (small_of_mem_references isReference d isLetter)
    rw [written, List.forall_mem_cons, List.forall_mem_append]
    exact ⟨ampersand, named, by simpa using semicolon⟩
  · simpa [written] using plain c member notLess notQuote

/-- Text without brackets and ampersands has no markup. -/
theorem isPlain_of_not_mem {text : List Char} (noTag : '<' ∉ text) (noReference : '&' ∉ text) :
    IsPlain text := by
  refine ⟨noTag, ?_⟩
  have same : unescape? text = some text := by
    clear noTag
    unfold unescape?
    induction text with
    | nil => rfl
    | cons c rest inductionHypothesis =>
        simp only [List.mem_cons, not_or] at noReference
        rw [unescapeFrom?, if_neg (Ne.symm noReference.1), inductionHypothesis noReference.2,
          Option.map_some]
  rw [same]
  rfl

theorem isPlain_escape (text : String) : IsPlain (escape text) where
  noTag member := by
    have noLess : ∀ c ∈ escape text, c ≠ '<' :=
      forall_mem_escape (by decide) (by decide) (by rintro c small rfl; simp at small)
        (fun c _ notLess _ => notLess)
    exact noLess _ member rfl
  references := by rw [unescape?_escape]; rfl

theorem quote_not_mem_escape (text : String) : '\x22' ∉ escape text := by
  have noQuote : ∀ c ∈ escape text, c ≠ '\x22' :=
    forall_mem_escape (by decide) (by decide) (by rintro c small rfl; simp at small)
      (fun c _ _ notQuote => notQuote)
  exact fun member => noQuote _ member rfl

/-- XML can carry the escaped text of what it can carry. -/
theorem isChar_of_mem_escape {text : String} (legal : IsXmlString text) :
    ∀ c ∈ escape text, IsChar c :=
  forall_mem_escape (by decide) (by decide)
    (fun c small => isChar_of_ascii (by omega) (by omega)) (fun c member _ _ => legal c member)

end Sbom.Xml
