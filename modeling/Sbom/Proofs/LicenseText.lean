import Mathlib.Data.List.DropRight
import Sbom.Conversion.Mapping

/-!
# The text of a licence

A licence is classified by its text without surrounding white space: as a listed identifier, as an
expression, or else as a name. The text is meant to stay what it is. It does, with one exception: the
catalogue finds an identifier also when plus signs follow it, and then the identifier stands for the
text and the plus signs ("or any later version") are gone. Nothing else changes a text.
-/

namespace Sbom.Text

/-- Trimming is dropping white space at the start and then at the end. -/
theorem trimmed_eq_rdropWhile (text : List Char) :
    trimmed text = (text.dropWhile isBlank).rdropWhile isBlank := rfl

/-- Trimming what is trimmed changes nothing. -/
theorem trimmed_trimmed (text : List Char) : trimmed (trimmed text) = trimmed text := by
  -- What is left is a start of the text without leading white space, so it has none itself.
  have noLeading : (trimmed text).dropWhile isBlank = trimmed text := by
    cases left : trimmed text with
    | nil => rfl
    | cons c rest =>
        have isStart : c :: rest <+: text.dropWhile isBlank := by
          rw [← left, trimmed_eq_rdropWhile]
          exact List.rdropWhile_prefix _ _
        obtain ⟨after, starts⟩ := isStart
        have notBlank := List.head?_dropWhile_not isBlank text
        rw [← starts] at notBlank
        exact List.dropWhile_cons_of_neg (by simpa using notBlank)
  rw [trimmed_eq_rdropWhile (trimmed text), noLeading, trimmed_eq_rdropWhile text,
    List.rdropWhile_idempotent]

/-- Trimming makes no text longer. -/
theorem length_trimmed_le (text : List Char) : (trimmed text).length ≤ text.length := by
  rw [trimmed_eq_rdropWhile]
  exact (List.rdropWhile_prefix _ _).length_le.trans (List.dropWhile_suffix _).length_le

@[simp] theorem toList_trim (text : String) : (trim text).toList = trimmed text.toList :=
  String.toList_ofList

theorem trim_eq_trim_iff {left right : String} :
    trim left = trim right ↔ trimmed left.toList = trimmed right.toList := by
  rw [← String.toList_inj, toList_trim, toList_trim]

theorem trim_trim (text : String) : trim (trim text) = trim text := by
  rw [trim_eq_trim_iff, toList_trim, trimmed_trimmed]

end Sbom.Text

namespace Sbom.License

variable {text : List Char} {id : String}

theorem withoutPlus_eq_rdropWhile (text : List Char) :
    withoutPlus text = text.rdropWhile (· == '+') := rfl

/-- A text is what it is without its trailing plus signs, and these. -/
theorem exists_eq_withoutPlus_append (text : List Char) :
    ∃ count, text = withoutPlus text ++ List.replicate count '+' := by
  refine ⟨(text.rtakeWhile (· == '+')).length, ?_⟩
  have onlyPlus : text.rtakeWhile (· == '+') =
      List.replicate (text.rtakeWhile (· == '+')).length '+' := by
    rw [List.eq_replicate_iff]
    exact ⟨rfl, fun c member => by simpa using List.mem_rtakeWhile_imp member⟩
  rw [← onlyPlus, withoutPlus_eq_rdropWhile, List.rdropWhile_append_rtakeWhile]

/-- A text without a plus sign at its end is kept. -/
theorem withoutPlus_eq_self_iff : withoutPlus text = text ↔ text.getLast? ≠ some '+' := by
  rw [withoutPlus_eq_rdropWhile, List.rdropWhile_eq_self_iff]
  cases text using List.reverseRecOn <;> simp

/-- A text with a plus sign at its end becomes shorter. -/
theorem length_withoutPlus_lt (ends : text.getLast? = some '+') :
    (withoutPlus text).length < text.length := by
  have isStart : withoutPlus text <+: text := List.rdropWhile_prefix _ _
  refine lt_of_le_of_ne isStart.length_le fun same => ?_
  exact withoutPlus_eq_self_iff.mp (isStart.eq_of_length same) ends

/-- An identifier is found exactly if it is listed and is the text without its trailing plus signs. -/
theorem licenseId?_eq_some_iff :
    licenseId? text = some id ↔ id ∈ licenseIds ∧ id.toList = withoutPlus text := by
  have sameText : id.toList = withoutPlus text ↔ id = String.ofList (withoutPlus text) := by
    rw [← String.toList_inj, String.toList_ofList]
  rw [sameText, licenseId?]
  constructor
  · intro found
    exact ⟨List.mem_of_find?_eq_some found, by simpa using List.find?_some found⟩
  · rintro ⟨listed, rfl⟩
    -- The search compares for equality, so whatever it finds is the text looked for.
    cases found : licenseIds.find? (fun id => id == String.ofList (withoutPlus text)) with
    | none => exact absurd BEq.rfl (List.find?_eq_none.mp found _ listed)
    | some other => rw [show other = _ by simpa using List.find?_some found]

/-- Whether a text is a listed identifier with plus signs behind it. -/
def LosesPlus (text : List Char) : Prop :=
  text.getLast? = some '+' ∧ String.ofList (withoutPlus text) ∈ licenseIds

instance (text : List Char) : Decidable (LosesPlus text) :=
  inferInstanceAs (Decidable (_ ∧ _))

/-- Where no identifier is found, none is shortened. -/
theorem not_losesPlus_of_none (unknown : licenseId? text = none) : ¬ LosesPlus text := by
  rintro ⟨-, listed⟩
  have found := licenseId?_eq_some_iff.mpr ⟨listed, String.toList_ofList⟩
  simp [unknown] at found

/-- An identifier that is found is the text exactly if the text has no plus sign at its end. -/
theorem toList_eq_iff_not_losesPlus (found : licenseId? text = some id) :
    id.toList = text ↔ ¬ LosesPlus text := by
  obtain ⟨listed, shortened⟩ := licenseId?_eq_some_iff.mp found
  have isListed : String.ofList (withoutPlus text) ∈ licenseIds := by
    rwa [← shortened, String.ofList_toList]
  rw [shortened, withoutPlus_eq_self_iff]
  exact not_congr ⟨fun ends => ⟨ends, isListed⟩, And.left⟩

end Sbom.License

namespace Sbom.CycloneDx

/-- The text that a licence carries: its identifier, its expression or its name. -/
def LicenseChoice.text : LicenseChoice → String
  | .license (some id) _ => id
  | .license none name => name.getD ""
  | .expression text => text

end Sbom.CycloneDx

namespace Sbom.Conversion

open License (licenseIds licenseId? LosesPlus)
open Text (trim trimmed)

variable {license id : String} {name : Option String}

/-- An identifier is emitted exactly if the catalogue finds one for the trimmed text. -/
theorem licenseChoice_eq_id_iff :
    licenseChoice license = .license (some id) name ↔
      licenseId? (trimmed license.toList) = some id ∧ name = none := by
  rw [licenseChoice]
  split
  next found => simp [found, eq_comm]
  next unknown => split <;> simp [unknown]

/-- A licence that is no listed identifier keeps its text. -/
theorem trim_text_of_unknown (unknown : licenseId? (trimmed license.toList) = none) :
    trim (licenseChoice license).text = trim license := by
  rw [licenseChoice]
  simp only [unknown]
  split
  · exact Text.trim_trim license
  · rfl

/-- An identifier has the text of the licence, white space at the ends aside, exactly if it is that
text without the white space. -/
theorem trim_id_eq_trim_iff (found : licenseId? (trimmed license.toList) = some id) :
    trim id = trim license ↔ id = trim license := by
  constructor
  · intro same
    -- An identifier that had lost a plus sign would be too short.
    have kept : ¬ LosesPlus (trimmed license.toList) := by
      rintro ⟨ends, -⟩
      have shortened := (License.licenseId?_eq_some_iff.mp found).2
      have shorter := License.length_withoutPlus_lt ends
      have noLonger := Text.length_trimmed_le id.toList
      rw [Text.trim_eq_trim_iff.mp same, shortened] at noLonger
      omega
    rw [← String.toList_inj, Text.toList_trim]
    exact (License.toList_eq_iff_not_losesPlus found).mpr kept
  · rintro same
    rw [same, Text.trim_trim]

/-- A licence carries its own text, white space at the ends aside, unless this is a listed identifier
with plus signs behind it. An identifier that is emitted is listed and is the text without the white
space and the plus signs; so it is the whole text unless these are lost. -/
theorem licenseChoice_text (license : String) :
    (trim (licenseChoice license).text = trim license ↔ ¬ LosesPlus (trimmed license.toList)) ∧
      ∀ id name, licenseChoice license = .license (some id) name →
        (id ∈ licenseIds ∧ ∃ count, trim license = id ++ String.ofList (List.replicate count '+')) ∧
          (id = trim license ↔ ¬ LosesPlus (trimmed license.toList)) := by
  have identified : ∀ id, licenseId? (trimmed license.toList) = some id →
      (id = trim license ↔ ¬ LosesPlus (trimmed license.toList)) := by
    intro id found
    rw [← String.toList_inj, Text.toList_trim]
    exact License.toList_eq_iff_not_losesPlus found
  constructor
  · cases looked : licenseId? (trimmed license.toList) with
    | none =>
        exact iff_of_true (trim_text_of_unknown looked) (License.not_losesPlus_of_none looked)
    | some id =>
        rw [licenseChoice_eq_id_iff.mpr ⟨looked, rfl⟩, ← identified id looked]
        exact trim_id_eq_trim_iff looked
  · intro id name isChoice
    obtain ⟨found, -⟩ := licenseChoice_eq_id_iff.mp isChoice
    obtain ⟨listed, shortened⟩ := License.licenseId?_eq_some_iff.mp found
    obtain ⟨count, parts⟩ := License.exists_eq_withoutPlus_append (trimmed license.toList)
    refine ⟨⟨listed, count, ?_⟩, identified id found⟩
    rw [← String.toList_inj, Text.toList_trim, String.toList_append, String.toList_ofList,
      shortened]
    exact parts

/-- A licence that the catalogue lists, with white space at both ends. -/
def orLaterLicense : String := " GPL-2.0+\n"

/-- The catalogue lists `GPL-2.0+`, but a licence with this text becomes `GPL-2.0`. -/
theorem licenseChoice_orLaterLicense :
    licenseChoice orLaterLicense = .license (some "GPL-2.0") none :=
  licenseChoice_eq_id_iff.mpr ⟨by decide, rfl⟩

/-- Of two licences one keeps its text and the other loses its plus sign. -/
theorem licenseChoice_text_orLater :
    (licenseChoice "MIT " = .license (some "MIT") none ∧ trim "MIT" = trim "MIT ") ∧
      licenseChoice orLaterLicense = .license (some "GPL-2.0") none ∧
      (∃ count, trim orLaterLicense = "GPL-2.0" ++ String.ofList (List.replicate count '+')) ∧
      trim "GPL-2.0" ≠ trim orLaterLicense := by
  have isMit : licenseChoice "MIT " = .license (some "MIT") none :=
    licenseChoice_eq_id_iff.mpr ⟨by decide, rfl⟩
  have loses : LosesPlus (trimmed orLaterLicense.toList) := by decide
  have kept := (licenseChoice_text "MIT ").1.mpr (by decide)
  have lost := (licenseChoice_text orLaterLicense).1.not.mpr (not_not.mpr loses)
  obtain ⟨⟨-, plusSigns⟩, -⟩ :=
    (licenseChoice_text orLaterLicense).2 _ _ licenseChoice_orLaterLicense
  rw [isMit] at kept
  rw [licenseChoice_orLaterLicense] at lost
  exact ⟨⟨isMit, kept⟩, licenseChoice_orLaterLicense, plusSigns, lost⟩

/-- Not every licence keeps its text: "any later version" is lost. -/
theorem not_forall_licenseChoice_text :
    ¬ ∀ license, trim (licenseChoice license).text = trim license := by
  intro keeps
  have kept := keeps orLaterLicense
  rw [licenseChoice_orLaterLicense] at kept
  exact absurd kept (by decide)

end Sbom.Conversion
