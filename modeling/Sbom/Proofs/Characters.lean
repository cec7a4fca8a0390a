import Sbom.Proofs.Digits
import Sbom.Proofs.Escaping
import Sbom.Proofs.Texts

/-!
# Characters that XML can carry

Printable ASCII characters are among them, so the words that the written forms add to the texts of a
document, numbers and times included, can always be written. What the character check accepts are
therefore the documents whose own texts XML can carry.
-/

namespace Sbom.CycloneDx

open Xml (IsXmlString isChar_of_ascii)

theorem isChar_of_isDigit {c : Char} (digit : Text.isDigit c = true) : Xml.IsChar c := by
  have bounds := Text.isDigit_iff.mp digit
  exact isChar_of_ascii (by omega) (by omega)

theorem isChar_of_mem_yearText {year : Int} {c : Char} (member : c ∈ Calendar.yearText year) :
    Xml.IsChar c := by
  have padded : ∀ c ∈ Text.decimalPadded 4 year.natAbs, Xml.IsChar c :=
    fun c digit => isChar_of_isDigit (Text.isDigit_of_mem_decimalPadded digit)
  unfold Calendar.yearText at member
  split at member
  case isTrue => exact padded c member
  case isFalse =>
    rcases List.mem_cons.mp member with rfl | digit
    · split <;> decide
    · exact padded c digit

theorem isChar_of_mem_fractionText {nanosecond : Nat} {c : Char}
    (member : c ∈ Calendar.fractionText nanosecond) : Xml.IsChar c := by
  have point : ∀ width value, c ∈ '.' :: Text.decimalPadded width value → Xml.IsChar c := by
    intro width value member
    rcases List.mem_cons.mp member with rfl | digit
    · decide
    · exact isChar_of_isDigit (Text.isDigit_of_mem_decimalPadded digit)
  unfold Calendar.fractionText at member
  split at member
  case isTrue => cases member
  case isFalse =>
    split at member
    case isTrue => exact point _ _ member
    case isFalse => split at member <;> exact point _ _ member

/-- The text of an instant consists of digits and marks of ASCII. -/
theorem isChar_of_mem_textWith {instant : Calendar.Instant} {fraction : List Char}
    (legal : ∀ c ∈ fraction, Xml.IsChar c) : ∀ c ∈ instant.textWith fraction, Xml.IsChar c := by
  have year : ∀ c ∈ Calendar.yearText instant.date.year, Xml.IsChar c :=
    fun c => isChar_of_mem_yearText
  have part : ∀ {mark : Char} {value : Nat}, Xml.IsChar mark →
      ∀ c ∈ mark :: Text.decimalPadded 2 value, Xml.IsChar c := by
    intro mark value legalMark
    rw [List.forall_mem_cons]
    exact ⟨legalMark, fun c digit => isChar_of_isDigit (Text.isDigit_of_mem_decimalPadded digit)⟩
  simp only [Calendar.Instant.textWith, List.forall_mem_append]
  exact ⟨⟨⟨⟨⟨⟨⟨year, part (by decide)⟩, part (by decide)⟩, part (by decide)⟩, part (by decide)⟩,
    part (by decide)⟩, legal⟩, List.forall_mem_singleton.mpr (by decide)⟩

/-- XML can carry the words that the value form adds. -/
theorem admitsWords_isXmlString : AdmitsWords IsXmlString where
  empty := by decide
  type type := by cases type <;> decide
  algorithm algorithm := by cases algorithm <;> decide
  instant instant := by
    intro c member
    rw [Calendar.Instant.text, String.toList_ofList] at member
    exact isChar_of_mem_textWith (fun c => isChar_of_mem_fractionText) c member

/-- The character check looks at the texts of a document and at no others. -/
theorem Bom.isXmlText_iff {bom : Bom} : bom.IsXmlText ↔ ∀ text ∈ bom.texts, IsXmlString text :=
  Bom.everyString_toJson admitsWords_isXmlString

end Sbom.CycloneDx
