import Mathlib.Data.List.Nodup
import Sbom.CycloneDx.Encoder
import Sbom.Proofs.Escaping

/-!
# Documents that can be written

The checks before writing look for the first defect. Here they are read as statements about the whole
document: `Bom.IsSound` about references and dependency records, `Bom.IsXmlText` about the characters
of its strings. An output without a bound takes every piece, so a document without a defect is
written.
-/

namespace Sbom.CycloneDx

/-- Whether the references of all components that are not empty are distinct, and every dependency
record has a reference. -/
structure Bom.IsSound (bom : Bom) : Prop where
  distinct : (bom.refs.filter fun ref => ref ≠ "").Nodup
  recordsNamed : ∀ record ∈ bom.dependencies, record.ref ≠ ""

/-- Whether XML can carry every character of every string of a document. -/
def Bom.IsXmlText (bom : Bom) : Prop :=
  ∀ text ∈ stringsOf bom.toJson, ∀ c ∈ text.toList, Xml.IsChar c

/-- No reference is repeated if those that are not empty are distinct and not seen before. -/
theorem firstRepeated?_eq_none_iff (seen refs : List String) :
    firstRepeated? seen refs = none ↔
      (refs.filter fun ref => ref ≠ "").Nodup ∧ ∀ ref ∈ refs, ref ≠ "" → ref ∉ seen := by
  induction refs generalizing seen with
  | nil => simp [firstRepeated?]
  | cons ref rest inductionHypothesis =>
      rw [firstRepeated?]
      by_cases isEmpty : ref = ""
      · subst isEmpty
        simpa using inductionHypothesis seen
      · have notEmpty : ref.isEmpty = false := by simpa using isEmpty
        rw [notEmpty, if_neg Bool.false_ne_true, List.filter_cons_of_pos (by simpa using isEmpty),
          List.nodup_cons]
        by_cases isSeen : ref ∈ seen
        · rw [if_pos (by simpa using isSeen)]
          simp [isSeen, isEmpty]
        · rw [if_neg (by simpa using isSeen), inductionHypothesis]
          simp only [List.mem_cons, List.mem_filter, not_or]
          grind

/-- No record lacks a reference if none of them has an empty one. -/
theorem firstEmptyRef?_eq_none_iff (index : Nat) (records : List Dependency) :
    firstEmptyRef? index records = none ↔ ∀ record ∈ records, record.ref ≠ "" := by
  induction records generalizing index with
  | nil => simp [firstEmptyRef?]
  | cons record rest inductionHypothesis =>
      rw [firstEmptyRef?]
      by_cases isEmpty : record.ref = ""
      · simp [isEmpty]
      · simp [isEmpty, inductionHypothesis]

/-- The structural check accepts the sound documents. -/
theorem Bom.structuralDefect?_eq_none_iff (bom : Bom) :
    bom.structuralDefect? = none ↔ bom.IsSound := by
  have distinctIff := firstRepeated?_eq_none_iff [] bom.refs
  have namedIff := firstEmptyRef?_eq_none_iff 0 bom.dependencies
  unfold structuralDefect?
  cases repeated : firstRepeated? [] bom.refs with
  | some ref =>
      rw [repeated] at distinctIff
      refine ⟨fun none => (by cases none), fun sound => ?_⟩
      exact absurd (distinctIff.mpr ⟨sound.distinct, by simp⟩) (Option.some_ne_none _)
  | none =>
      rw [Option.map_eq_none_iff, namedIff]
      have distinct := (distinctIff.mp repeated).1
      exact ⟨fun named => ⟨distinct, named⟩, fun sound => sound.recordsNamed⟩

/-- The strings of several members are those of each of their values. -/
theorem stringsOfMembers_eq_flatMap (members : List (String × Json)) :
    stringsOfMembers members = members.flatMap fun member => stringsOf member.2 := by
  induction members with
  | nil => rfl
  | cons member rest inductionHypothesis =>
      rw [stringsOfMembers, inductionHypothesis, List.flatMap_cons]

mutual

/-- Sorting the members of every object rearranges the strings of a value. -/
theorem stringsOf_sortedValue : (value : Json) → (stringsOf (sortedValue value)).Perm (stringsOf value)
  | .array items => by
    rw [sortedValue, stringsOf, stringsOf]
    exact stringsOfAll_sortedValues items
  | .object members => by
    rw [sortedValue, stringsOf, stringsOf, sortedMembers, stringsOfMembers_eq_flatMap]
    refine ((List.mergeSort_perm _ _).flatMap_right _).trans ?_
    rw [← stringsOfMembers_eq_flatMap]
    exact stringsOfMembers_sortedMemberValues members
  | .null => .refl _
  | .bool _ => .refl _
  | .number _ => .refl _
  | .string _ => .refl _

theorem stringsOfAll_sortedValues :
    (values : List Json) → (stringsOfAll (sortedValues values)).Perm (stringsOfAll values)
  | [] => .refl _
  | value :: rest => by
    rw [sortedValues, stringsOfAll, stringsOfAll]
    exact (stringsOf_sortedValue value).append (stringsOfAll_sortedValues rest)

theorem stringsOfMembers_sortedMemberValues : (members : List (String × Json)) →
    (stringsOfMembers (sortedMemberValues members)).Perm (stringsOfMembers members)
  | [] => .refl _
  | (name, value) :: rest => by
    rw [sortedMemberValues, stringsOfMembers, stringsOfMembers]
    exact (stringsOf_sortedValue value).append (stringsOfMembers_sortedMemberValues rest)

end

/-- The first character that XML cannot carry is one of the text. -/
theorem unwritableChar?_eq_some {text : String} {c : Char} (found : unwritableChar? text = some c) :
    c ∈ text.toList ∧ ¬Xml.IsChar c := by
  refine ⟨List.mem_of_find?_eq_some found, ?_⟩
  simpa [← Xml.isXmlChar_iff] using List.find?_some found

/-- A text without such a character can be written. -/
theorem unwritableChar?_eq_none_iff {text : String} :
    unwritableChar? text = none ↔ ∀ c ∈ text.toList, Xml.IsChar c := by
  rw [unwritableChar?, List.find?_eq_none]
  simp [Xml.isXmlChar_iff]

/-- A character defect names a character that XML cannot carry and a string that has it. -/
theorem Bom.characterDefect?_eq_some {bom : Bom} {defect : Defect}
    (found : bom.characterDefect? = some defect) :
    ∃ text ∈ stringsOf bom.toJson, ∃ c ∈ text.toList,
      ¬Xml.IsChar c ∧ defect = .unwritableChar c text := by
  obtain ⟨text, member, isFirst⟩ := List.exists_of_findSome?_eq_some found
  obtain ⟨c, unwritable, rfl⟩ := Option.map_eq_some_iff.mp isFirst
  obtain ⟨isChar, notXml⟩ := unwritableChar?_eq_some unwritable
  exact ⟨text, (stringsOf_sortedValue bom.toJson).mem_iff.mp member, c, isChar, notXml, rfl⟩

/-- The character check accepts the documents that XML can carry. -/
theorem Bom.characterDefect?_eq_none_iff (bom : Bom) :
    bom.characterDefect? = none ↔ bom.IsXmlText := by
  rw [characterDefect?, List.findSome?_eq_none_iff]
  simp only [Option.map_eq_none_iff, unwritableChar?_eq_none_iff]
  exact forall_congr' fun text => imp_congr_left (stringsOf_sortedValue bom.toJson).mem_iff

namespace Sink

variable {sink : Sink}

/-- An output without a bound takes every piece, and stays without one. -/
theorem write_of_unbounded (unbounded : sink.bound = none) (piece : List Char) :
    (sink.write piece).2 = true ∧ (sink.write piece).1.bound = none := by
  simp [write, unbounded]

theorem writeAll_of_unbounded (unbounded : sink.bound = none) (pieces : List (List Char)) :
    (sink.writeAll pieces).2 = true ∧ (sink.writeAll pieces).1.bound = none := by
  induction pieces generalizing sink with
  | nil => exact ⟨rfl, unbounded⟩
  | cons piece rest inductionHypothesis =>
      rw [writeAll]
      obtain ⟨taken, stillUnbounded⟩ := write_of_unbounded unbounded piece
      cases written : sink.write piece with
      | mk next accepted =>
          rw [written] at taken stillUnbounded
          simp only at taken
          subst taken
          exact inductionHypothesis stillUnbounded

end Sink

namespace Bom

variable {bom : Bom} {sink : Sink}

/-- Writing into an output without a bound does not fail. -/
theorem write_of_unbounded (unbounded : sink.bound = none) (version : SpecVersion)
    (encoding : Encoding) : (bom.write version encoding sink).2 = .ok () := by
  obtain ⟨bodyTaken, stillUnbounded⟩ :=
    Sink.writeAll_of_unbounded unbounded (bom.bodyPieces version encoding)
  unfold write
  cases body : sink.writeAll (bom.bodyPieces version encoding) with
  | mk next accepted =>
      rw [body] at bodyTaken stillUnbounded
      simp only at bodyTaken
      subst bodyTaken
      obtain ⟨breakTaken, _⟩ := Sink.write_of_unbounded stillUnbounded ['\n']
      cases lineBreak : next.write ['\n'] with
      | mk last accepted =>
          rw [lineBreak] at breakTaken
          simp only at breakTaken
          subst breakTaken
          simp [lineBreak]

variable {version encoding : String} {target : SpecVersion} {form : Encoding}

/-- A document with a defect is refused before anything is written. -/
theorem encode_of_defect {defect : Defect} (versionParses : SpecVersion.parse version = .ok target)
    (encodingParses : Encoding.parse encoding = .ok form) (defective : bom.defect? form = some defect) :
    bom.encode version encoding sink =
      (sink, .error (.encoding "validating document" defect.cause)) := by
  simp [encode, resolveTarget, versionParses, encodingParses, defective]

/-- A document without a defect is written into an output without a bound. -/
theorem encode_of_valid (versionParses : SpecVersion.parse version = .ok target)
    (encodingParses : Encoding.parse encoding = .ok form) (valid : bom.defect? form = none)
    (unbounded : sink.bound = none) : (bom.encode version encoding sink).2 = .ok () := by
  simp only [encode, resolveTarget, versionParses, encodingParses, valid,
    write_of_unbounded unbounded, Except.mapError]

end Bom

end Sbom.CycloneDx
