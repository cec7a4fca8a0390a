import Sbom.Proofs.Characters

/-!
# What an encoder refuses

An encoding can go wrong at five checks before anything is written: the version, the encoding, the
references of the components, those of the dependency records and, for XML, the characters of all
texts. `Bom.Refused` states each check with the earlier ones passed and says which defect is the
first of its kind. An output without a bound never fails, so the checks alone decide whether a
document is written, and a refused one leaves the output as it was.
-/

namespace Sbom.CycloneDx

open Xml (IsXmlString)

/-- The first defect that keeps a document from being written in an encoding. -/
inductive FirstDefect (bom : Bom) (encoding : Encoding) : Defect → Prop where
  /-- The first reference in pre-order that an earlier component has. -/
  | duplicateRef {before after : List String} {ref : String}
      (position : bom.refs = before ++ ref :: after)
      (distinct : (before.filter fun ref => ref ≠ "").Nodup)
      (named : ref ≠ "") (repeated : ref ∈ before) :
      FirstDefect bom encoding (.duplicateRef ref)
  /-- The first dependency record without a reference. -/
  | emptyDependencyRef {before after : List Dependency} {record : Dependency}
      (distinct : (bom.refs.filter fun ref => ref ≠ "").Nodup)
      (position : bom.dependencies = before ++ record :: after)
      (named : ∀ earlier ∈ before, earlier.ref ≠ "") (unnamed : record.ref = "") :
      FirstDefect bom encoding (.emptyDependencyRef before.length)
  /-- The first character that XML cannot carry, in the first text that has one; the texts are those
  of the value form with its members in ascending order of their names. -/
  | unwritableChar {before after : List String} {text : String} {carried rest : List Char} {c : Char}
      (isXml : encoding = .xml) (sound : bom.IsSound)
      (position : stringsOf (sortedValue bom.toJson) = before ++ text :: after)
      (writable : ∀ earlier ∈ before, IsXmlString earlier)
      (split : text.toList = carried ++ c :: rest)
      (legal : ∀ d ∈ carried, Xml.IsChar d) (illegal : ¬Xml.IsChar c) :
      FirstDefect bom encoding (.unwritableChar c text)

/-- Why an encoding is refused: the first check that fails decides. -/
inductive Bom.Refused (bom : Bom) (version encoding : String) : Failure → Prop where
  /-- The version is none that can be written. -/
  | version {cause : EncodingCause} (unknown : SpecVersion.parse version = .error cause) :
      Refused bom version encoding (.encoding "parsing CycloneDX version" cause)
  /-- The encoding is none that can be written. -/
  | encoding {target : SpecVersion} {cause : EncodingCause}
      (known : SpecVersion.parse version = .ok target)
      (unknown : Encoding.parse encoding = .error cause) :
      Refused bom version encoding (.encoding "parsing CycloneDX encoding" cause)
  /-- The first defect of the document is a repeated reference. -/
  | duplicateRef {target : SpecVersion} {form : Encoding} {ref : String}
      (known : SpecVersion.parse version = .ok target)
      (parsed : Encoding.parse encoding = .ok form)
      (defective : FirstDefect bom form (.duplicateRef ref)) :
      Refused bom version encoding (.encoding "validating document"
        (.invalidDocument ("duplicate bom-ref '" ++ ref ++ "'")))
  /-- The first defect of the document is a dependency record without a reference. -/
  | emptyDependencyRef {target : SpecVersion} {form : Encoding} {index : Nat}
      (known : SpecVersion.parse version = .ok target)
      (parsed : Encoding.parse encoding = .ok form)
      (defective : FirstDefect bom form (.emptyDependencyRef index)) :
      Refused bom version encoding (.encoding "validating document"
        (.invalidDocument ("dependency #" ++ toString index ++ " has an empty ref")))
  /-- The first defect of the document is a character that XML cannot carry. -/
  | unwritableChar {target : SpecVersion} {form : Encoding} {c : Char} {text : String}
      (known : SpecVersion.parse version = .ok target)
      (parsed : Encoding.parse encoding = .ok form)
      (defective : FirstDefect bom form (.unwritableChar c text)) :
      Refused bom version encoding (.encoding "validating document"
        (.invalidDocument ("character U+" ++ String.ofList (Text.hexUpperPadded 4 c.toNat) ++
          " in '" ++ Text.shown text ++ "' cannot be written as XML")))

/-- What an encoding asks of a document and of the texts that name its version and encoding. -/
structure Bom.Accepted (bom : Bom) (version encoding : String) : Prop where
  versionKnown : ∃ target, SpecVersion.parse version = .ok target
  encodingKnown : ∃ form, Encoding.parse encoding = .ok form
  sound : bom.IsSound
  characters : Encoding.parse encoding = .ok .xml → ∀ text ∈ bom.texts, IsXmlString text

theorem Defect.cause_duplicateRef (ref : String) :
    (Defect.duplicateRef ref).cause =
      .invalidDocument ("duplicate bom-ref '" ++ ref ++ "'") :=
  rfl

theorem Defect.cause_emptyDependencyRef (index : Nat) :
    (Defect.emptyDependencyRef index).cause =
      .invalidDocument ("dependency #" ++ Text.decimalText index ++ " has an empty ref") :=
  rfl

theorem Defect.cause_unwritableChar (c : Char) (text : String) :
    (Defect.unwritableChar c text).cause =
      .invalidDocument ("character U+" ++ String.ofList (Text.hexUpperPadded 4 c.toNat) ++ " in '" ++
        Text.shown text ++ "' cannot be written as XML") :=
  rfl

/-- An element of a list that is not empty is its first one, or one of the others. -/
theorem exists_split_cons_iff {α : Type} {first element : α} {rest : List α}
    {holds : List α → Prop} :
    (∃ before after, first :: rest = before ++ element :: after ∧ holds before) ↔
      first = element ∧ holds [] ∨
      ∃ before after, rest = before ++ element :: after ∧ holds (first :: before) := by
  constructor
  · rintro ⟨before, after, position, here⟩
    cases before with
    | nil => exact .inl ⟨(List.cons.inj position).1, here⟩
    | cons earlier before =>
        obtain ⟨rfl, restPosition⟩ := List.cons.inj position
        exact .inr ⟨before, after, restPosition, here⟩
  · rintro (⟨rfl, here⟩ | ⟨before, after, rfl, here⟩)
    · exact ⟨[], rest, rfl, here⟩
    · exact ⟨first :: before, after, rfl, here⟩

/-- The first repeated reference is there before or was seen, and none before it is repeated. -/
theorem firstRepeated?_eq_some_iff {seen refs : List String} {ref : String} :
    firstRepeated? seen refs = some ref ↔
      ∃ before after, refs = before ++ ref :: after ∧ firstRepeated? seen before = none ∧
        ref ≠ "" ∧ (ref ∈ seen ∨ ref ∈ before) := by
  induction refs generalizing seen with
  | nil => simp [firstRepeated?]
  | cons first rest inductionHypothesis =>
      rw [exists_split_cons_iff]
      by_cases isEmpty : first = ""
      · subst isEmpty
        have passes : ∀ others, firstRepeated? seen ("" :: others) = firstRepeated? seen others :=
          fun _ => rfl
        simp only [passes, inductionHypothesis]
        grind
      · by_cases isSeen : first ∈ seen
        · simp only [firstRepeated?, String.isEmpty_iff, isEmpty, if_false,
            List.contains_iff_mem, isSeen]
          grind
        · simp only [firstRepeated?, String.isEmpty_iff, isEmpty, if_false,
            List.contains_iff_mem, isSeen, inductionHypothesis]
          grind

/-- The first record without a reference: all before it have one. -/
theorem firstEmptyRef?_eq_some_iff {index found : Nat} {records : List Dependency} :
    firstEmptyRef? index records = some found ↔
      ∃ record before after, records = before ++ record :: after ∧
        (∀ earlier ∈ before, earlier.ref ≠ "") ∧ record.ref = "" ∧
        found = index + before.length := by
  induction records generalizing index with
  | nil => simp [firstEmptyRef?]
  | cons first rest inductionHypothesis =>
      simp only [exists_split_cons_iff]
      by_cases isEmpty : first.ref = ""
      · simp only [firstEmptyRef?, String.isEmpty_iff, isEmpty, if_true]
        grind
      · simp only [firstEmptyRef?, String.isEmpty_iff, isEmpty, if_false, inductionHypothesis,
          List.forall_mem_cons, List.length_cons]
        grind

/-- The first character that XML cannot carry: it can carry those before it. -/
theorem unwritableChar?_eq_some_iff {text : String} {c : Char} :
    unwritableChar? text = some c ↔
      ¬Xml.IsChar c ∧ ∃ carried rest, text.toList = carried ++ c :: rest ∧
        ∀ d ∈ carried, Xml.IsChar d := by
  simp [unwritableChar?, List.find?_eq_some_iff_append, ← Xml.isXmlChar_iff]

section Defects

variable {bom : Bom} {encoding : Encoding} {defect : Defect}

/-- No reference of a document is repeated exactly if those that are not empty are distinct. -/
theorem firstRepeated?_refs_eq_none_iff :
    firstRepeated? [] bom.refs = none ↔ (bom.refs.filter fun ref => ref ≠ "").Nodup := by
  simp [firstRepeated?_eq_none_iff]

/-- A first defect is the one that the checks find. -/
theorem FirstDefect.defect?_eq (first : FirstDefect bom encoding defect) :
    bom.defect? encoding = some defect := by
  cases first with
  | @duplicateRef before after ref position distinct named repeated =>
      have found : firstRepeated? [] bom.refs = some ref := by
        refine firstRepeated?_eq_some_iff.mpr ⟨before, after, position, ?_, named, .inr repeated⟩
        exact (firstRepeated?_eq_none_iff [] before).mpr ⟨distinct, by simp⟩
      simp [Bom.defect?, Bom.structuralDefect?, found]
  | @emptyDependencyRef before after record distinct position named unnamed =>
      have found : firstEmptyRef? 0 bom.dependencies = some before.length :=
        firstEmptyRef?_eq_some_iff.mpr
          ⟨record, before, after, position, named, unnamed, (Nat.zero_add _).symm⟩
      simp [Bom.defect?, Bom.structuralDefect?, firstRepeated?_refs_eq_none_iff.mpr distinct, found]
  | @unwritableChar before after text carried rest c isXml sound position writable split legal
      illegal =>
      have here : unwritableChar? text = some c :=
        unwritableChar?_eq_some_iff.mpr ⟨illegal, carried, rest, split, legal⟩
      have found : bom.characterDefect? = some (.unwritableChar c text) := by
        refine List.findSome?_eq_some_iff.mpr ⟨before, text, after, position, by rw [here]; rfl, ?_⟩
        intro earlier member
        rw [unwritableChar?_eq_none_iff.mpr (writable earlier member)]
        rfl
      simp [Bom.defect?, bom.structuralDefect?_eq_none_iff.mpr sound, isXml, found]

/-- The checks find the first defect. -/
theorem FirstDefect.of_defect?_eq (found : bom.defect? encoding = some defect) :
    FirstDefect bom encoding defect := by
  unfold Bom.defect? at found
  cases structural : bom.structuralDefect? with
  | some first =>
      rw [structural] at found
      cases found
      unfold Bom.structuralDefect? at structural
      cases repeated : firstRepeated? [] bom.refs with
      | some ref =>
          rw [repeated] at structural
          cases structural
          obtain ⟨before, after, position, noneBefore, named, isRepeated⟩ :=
            firstRepeated?_eq_some_iff.mp repeated
          have distinct := ((firstRepeated?_eq_none_iff [] before).mp noneBefore).1
          exact .duplicateRef position distinct named (isRepeated.resolve_left List.not_mem_nil)
      | none =>
          rw [repeated] at structural
          obtain ⟨index, isEmpty, rfl⟩ := Option.map_eq_some_iff.mp structural
          obtain ⟨record, before, after, position, named, unnamed, rfl⟩ :=
            firstEmptyRef?_eq_some_iff.mp isEmpty
          rw [Nat.zero_add]
          exact .emptyDependencyRef (firstRepeated?_refs_eq_none_iff.mp repeated) position named
            unnamed
  | none =>
      simp only [structural, Option.ite_none_right_eq_some] at found
      obtain ⟨isXml, found⟩ := found
      obtain ⟨before, text, after, position, here, noneBefore⟩ :=
        List.findSome?_eq_some_iff.mp found
      obtain ⟨c, unwritable, rfl⟩ := Option.map_eq_some_iff.mp here
      obtain ⟨illegal, carried, rest, split, legal⟩ := unwritableChar?_eq_some_iff.mp unwritable
      refine .unwritableChar isXml (bom.structuralDefect?_eq_none_iff.mp structural) position ?_
        split legal illegal
      intro earlier member
      exact unwritableChar?_eq_none_iff.mp (Option.map_eq_none_iff.mp (noneBefore earlier member))

/-- A document passes the checks for an encoding exactly if it is sound and, for XML, its texts can
be carried. -/
theorem Bom.defect?_eq_none_iff :
    bom.defect? encoding = none ↔
      bom.IsSound ∧ (encoding = .xml → ∀ text ∈ bom.texts, IsXmlString text) := by
  rw [← structuralDefect?_eq_none_iff, ← isXmlText_iff, ← characterDefect?_eq_none_iff, defect?]
  cases bom.structuralDefect? <;> cases encoding <;> simp

/-- The only text with a character that XML cannot carry gives the first defect, wherever it stands
among the texts. -/
theorem FirstDefect.unwritableChar_of_others {text : String} {carried rest : List Char} {c : Char}
    (sound : bom.IsSound) (member : text ∈ stringsOf bom.toJson)
    (others : ∀ other ∈ stringsOf bom.toJson, other ≠ text → IsXmlString other)
    (split : text.toList = carried ++ c :: rest) (legal : ∀ d ∈ carried, Xml.IsChar d)
    (illegal : ¬Xml.IsChar c) : FirstDefect bom .xml (.unwritableChar c text) := by
  have sameTexts := stringsOf_sortedValue bom.toJson
  obtain ⟨before, after, position, isFirst⟩ :=
    List.eq_append_cons_of_mem (sameTexts.mem_iff.mpr member)
  refine .unwritableChar rfl sound position (fun earlier isEarlier => ?_) split legal illegal
  have isText : earlier ∈ stringsOf (sortedValue bom.toJson) := by
    rw [position]
    exact List.mem_append_left _ isEarlier
  exact others earlier (sameTexts.mem_iff.mp isText) (ne_of_mem_of_not_mem isEarlier isFirst)

end Defects

section Encoding

variable {bom : Bom} {version encoding : String} {sink : Sink} {failure : Failure}

/-- What an encoder accepts is written. -/
theorem Bom.Accepted.encode_eq (accepted : bom.Accepted version encoding)
    (unbounded : sink.bound = none) : (bom.encode version encoding sink).2 = .ok () := by
  obtain ⟨target, versionParses⟩ := accepted.versionKnown
  obtain ⟨form, encodingParses⟩ := accepted.encodingKnown
  refine encode_of_valid versionParses encodingParses ?_ unbounded
  rw [defect?_eq_none_iff]
  refine ⟨accepted.sound, fun isXml => accepted.characters ?_⟩
  rw [encodingParses, isXml]

/-- What an encoder refuses fails with the reason of the refusal and leaves the output alone. -/
theorem Bom.Refused.encode_eq (refused : bom.Refused version encoding failure) :
    bom.encode version encoding sink = (sink, .error failure) := by
  cases refused with
  | version unknown => simp [encode, resolveTarget, unknown]
  | encoding known unknown => simp [encode, resolveTarget, known, unknown]
  | duplicateRef known parsed defective =>
      rw [encode_of_defect known parsed defective.defect?_eq, Defect.cause_duplicateRef]
  | emptyDependencyRef known parsed defective =>
      rw [encode_of_defect known parsed defective.defect?_eq, Defect.cause_emptyDependencyRef,
        Text.decimalText_eq_toString]
  | unwritableChar known parsed defective =>
      rw [encode_of_defect known parsed defective.defect?_eq, Defect.cause_unwritableChar]

/-- Every encoding is accepted or refused. -/
theorem Bom.accepted_or_refused (bom : Bom) (version encoding : String) :
    bom.Accepted version encoding ∨ ∃ failure, bom.Refused version encoding failure := by
  cases versionParses : SpecVersion.parse version with
  | error cause => exact .inr ⟨_, .version versionParses⟩
  | ok target =>
      cases encodingParses : Encoding.parse encoding with
      | error cause => exact .inr ⟨_, .encoding versionParses encodingParses⟩
      | ok form =>
          cases defective : bom.defect? form with
          | some defect =>
              have first := FirstDefect.of_defect?_eq defective
              cases defect with
              | duplicateRef ref => exact .inr ⟨_, .duplicateRef versionParses encodingParses first⟩
              | emptyDependencyRef index =>
                  exact .inr ⟨_, .emptyDependencyRef versionParses encodingParses first⟩
              | unwritableChar c text =>
                  exact .inr ⟨_, .unwritableChar versionParses encodingParses first⟩
          | none =>
              obtain ⟨sound, characters⟩ := defect?_eq_none_iff.mp defective
              refine .inl ⟨⟨target, versionParses⟩, ⟨form, encodingParses⟩, sound, fun isXml => ?_⟩
              exact characters (Except.ok.inj (encodingParses.symm.trans isXml))

/-- An output without a bound decides nothing: a document is written exactly if its version and its
encoding are known, its references are sound and, for XML, all texts it holds can be carried. It is
refused exactly for the first of these that fails, and then nothing was written. -/
theorem encode_unbounded (bom : Bom) (version encoding : String) {sink : Sink}
    (unbounded : sink.bound = none) :
    ((bom.encode version encoding sink).2 = .ok () ↔ bom.Accepted version encoding) ∧
    (∀ failure, (bom.encode version encoding sink).2 = .error failure ↔
      bom.Refused version encoding failure) ∧
    ∀ failure, (bom.encode version encoding sink).2 = .error failure →
      (bom.encode version encoding sink).1 = sink := by
  rcases bom.accepted_or_refused version encoding with accepted | ⟨reason, refused⟩
  · have written := accepted.encode_eq unbounded
    have notRefused : ∀ failure, ¬ bom.Refused version encoding failure := by
      intro failure refused
      rw [refused.encode_eq] at written
      cases written
    simp [written, accepted, notRefused]
  · have fails : bom.encode version encoding sink = (sink, .error reason) := refused.encode_eq
    have notAccepted : ¬ bom.Accepted version encoding := by
      intro accepted
      have written := accepted.encode_eq unbounded
      rw [fails] at written
      cases written
    have onlyReason : ∀ failure, bom.Refused version encoding failure → reason = failure := by
      intro failure other
      cases fails.symm.trans other.encode_eq
      rfl
    rw [fails]
    refine ⟨iff_of_false (fun written => by cases written) notAccepted, fun failure => ?_,
      fun _ _ => rfl⟩
    constructor
    · intro same
      cases same
      exact refused
    · intro other
      rw [onlyReason failure other]

/-- A document in which a nested component has the reference of the root and its supplier has a
contact whose address holds a line feed and a control character. -/
def smudgedBom : Bom where
  metadata := { component := some (.leaf { ref := "app" }) }
  components := [.node { ref := "lib" }
    [.leaf { ref := "app", supplier := some { contacts := [{ email := "\n\x01" }] } }]]

theorem encode_smudgedBom :
    ((smudgedBom.encode "1.5" "xml" {}).2 = .error (.encoding "validating document"
      (.invalidDocument "duplicate bom-ref 'app'"))) ∧
    (smudgedBom.encode "1.5" "xml" {}).1 = {} ∧
    ({ smudgedBom with metadata := {} }.encode " V1.5 " " JSON" {}).2 = .ok () ∧
    ({ smudgedBom with metadata := {} }.encode "1.5" "xml" {}).2 =
      .error (.encoding "validating document"
        (.invalidDocument "character U+0001 in '\\n\\u\x7b1\x7d' cannot be written as XML")) := by
  have refused := (encode_unbounded smudgedBom "1.5" "xml" (rfl : ({} : Sink).bound = none)).2
  have known : SpecVersion.parse "1.5" = .ok .v1_5 := by rfl
  have parsed : Encoding.parse "xml" = .ok .xml := by rfl
  have position : smudgedBom.refs = ["app", "lib"] ++ "app" :: [] := by rfl
  have repeated : FirstDefect smudgedBom .xml (.duplicateRef "app") :=
    .duplicateRef position (by decide) (by decide) (by decide)
  have fails := (refused.1 _).mpr (.duplicateRef known parsed repeated)
  refine ⟨fails, refused.2 _ fails, ?_, ?_⟩
  · rw [(encode_unbounded _ _ _ rfl).1]
    exact ⟨⟨.v1_5, rfl⟩, ⟨.json, rfl⟩, ⟨by decide, by decide⟩, fun isXml => by cases isXml⟩
  · have split : "\n\x01".toList = ['\n'] ++ '\x01' :: [] := by decide
    have smudged : FirstDefect { smudgedBom with metadata := {} } .xml
        (.unwritableChar '\x01' "\n\x01") :=
      .unwritableChar_of_others ⟨by decide, by decide⟩ (by decide) (by decide) split
        (List.forall_mem_singleton.mpr (by decide)) (by decide)
    have message : "character U+" ++ String.ofList (Text.hexUpperPadded 4 ('\x01' : Char).toNat) ++
        " in '" ++ Text.shown "\n\x01" ++ "' cannot be written as XML" =
        "character U+0001 in '\\n\\u\x7b1\x7d' cannot be written as XML" := by decide +kernel
    rw [← message]
    exact ((encode_unbounded _ _ _ rfl).2.1 _).mpr (.unwritableChar known parsed smudged)

end Encoding

end Sbom.CycloneDx
