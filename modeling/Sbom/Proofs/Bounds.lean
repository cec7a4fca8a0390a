import Sbom.Proofs.Digits
import Sbom.Proofs.Written

/-!
# Writing into a bounded output

An output with a bound refuses the piece that would take it beyond, and the writing stops there. So a
text that is offered in pieces is taken whole exactly if its bytes fit, however it is cut, and of a
text that does not fit a beginning is taken. A document is offered as its body and a line break, and
an encoding can therefore end in three ways.
-/

namespace Sbom.CycloneDx

namespace Sink

/-- The bytes of a text. -/
def utf8 (text : List Char) : List UInt8 :=
  text.flatMap String.utf8EncodeChar

/-- The bytes an output took. -/
def bytes (sink : Sink) : List UInt8 :=
  utf8 sink.text

/-- Whether an output has room for a text. -/
def Fits (sink : Sink) (text : List Char) : Prop :=
  ∀ limit ∈ sink.bound, sink.size + byteCount text ≤ limit

/-- What becomes of a text that is offered to an output. The second part of an outcome says whether
the output took the text. -/
inductive Offered (sink : Sink) (text : List Char) : Sink × Bool → Prop where
  /-- It fits and is taken. -/
  | taken {after : Sink} (fits : sink.Fits text) (whole : after.text = sink.text ++ text)
      (size : after.size = sink.size + byteCount text) (bound : after.bound = sink.bound)
      (refusal : after.refusal = sink.refusal) :
      Offered sink text (after, true)
  /-- It does not fit, and only a beginning of it is taken. -/
  | refused {after : Sink} {part : List Char} (exceeds : ¬ sink.Fits text) (isPart : part <+: text)
      (begun : after.text = sink.text ++ part) (refusal : after.refusal = sink.refusal) :
      Offered sink text (after, false)

variable {sink middle after : Sink} {first second text part : List Char} {outcome : Sink × Bool}

theorem byteCount_append (first second : List Char) :
    byteCount (first ++ second) = byteCount first + byteCount second := by
  induction first with
  | nil => exact (Nat.zero_add _).symm
  | cons c rest inductionHypothesis =>
      exact (congrArg (c.utf8Size + ·) inductionHypothesis).trans (Nat.add_assoc _ _ _).symm

/-- The bytes of a text are as many as are counted for it. -/
theorem length_utf8 (text : List Char) : (utf8 text).length = byteCount text := by
  induction text with
  | nil => rfl
  | cons c rest inductionHypothesis =>
      rw [utf8, List.flatMap_cons, List.length_append, String.length_utf8EncodeChar]
      exact congrArg (c.utf8Size + ·) inductionHypothesis

theorem length_bytes (sink : Sink) : sink.bytes.length = byteCount sink.text :=
  length_utf8 sink.text

/-- The bytes of the beginning of a text are the beginning of its bytes. -/
theorem utf8_prefix (isPart : part <+: text) : utf8 part <+: utf8 text := by
  obtain ⟨rest, rfl⟩ := isPart
  rw [utf8, utf8, List.flatMap_append]
  exact List.prefix_append _ _

/-- Where a text fits, so does its beginning. -/
theorem Fits.of_append (fits : sink.Fits (first ++ second)) : sink.Fits first := by
  intro limit isBound
  have wide := fits limit isBound
  rw [byteCount_append] at wide
  omega

/-- What fits after a text that was taken fits together with it. -/
theorem fits_append_iff (size : middle.size = sink.size + byteCount first)
    (bound : middle.bound = sink.bound) : sink.Fits (first ++ second) ↔ middle.Fits second := by
  simp only [Fits, size, bound, byteCount_append, Nat.add_assoc]

/-- A text behind one that was taken is offered with it. -/
theorem Offered.append (head : sink.Offered first (middle, true))
    (tail : middle.Offered second outcome) : sink.Offered (first ++ second) outcome := by
  cases head with
  | taken fits whole size bound refusal =>
      have together : sink.Fits (first ++ second) ↔ middle.Fits second :=
        fits_append_iff size bound
      cases tail with
      | taken fitsToo wholeToo sizeToo boundToo refusalToo =>
          refine .taken (together.mpr fitsToo) ?_ ?_ (boundToo.trans bound)
            (refusalToo.trans refusal)
          · rw [wholeToo, whole, List.append_assoc]
          · rw [sizeToo, size, byteCount_append, Nat.add_assoc]
      | refused exceeds isPart begun refusalToo =>
          refine .refused (fun fits => exceeds (together.mp fits))
            ((List.prefix_append_right_inj first).mpr isPart) ?_ (refusalToo.trans refusal)
          rw [begun, whole, List.append_assoc]

/-- A text behind one that was refused is not offered any more. -/
theorem Offered.cut (head : sink.Offered first (after, false)) :
    sink.Offered (first ++ second) (after, false) := by
  cases head with
  | refused exceeds isPart begun refusal =>
      exact .refused (fun fits => exceeds fits.of_append)
        (isPart.trans (List.prefix_append first second)) begun refusal

/-- A piece is taken or refused as a whole. -/
theorem write_offered (sink : Sink) (piece : List Char) :
    sink.Offered piece (sink.write piece) := by
  have roomIff : (sink.bound.all fun limit => sink.size + byteCount piece ≤ limit) = true ↔
      sink.Fits piece := by
    unfold Fits
    cases sink.bound <;> simp
  rw [write]
  split
  case isTrue room => exact .taken (roomIff.mp room) (by simp [Sink.text]) rfl rfl rfl
  case isFalse full =>
    exact .refused (fun fits => full (roomIff.mpr fits)) List.nil_prefix
      (List.append_nil _).symm rfl

/-- A piece that is refused leaves an output as it was. -/
theorem eq_of_write_refused {piece : List Char} (refused : sink.write piece = (after, false)) :
    after = sink := by
  rw [write] at refused
  split at refused
  case isTrue => cases refused
  case isFalse =>
    cases refused
    rfl

/-- Pieces are offered like the text they make up, to an output that is not over its bound. -/
theorem writeAll_offered (within : sink.Fits []) (pieces : List (List Char)) :
    sink.Offered pieces.flatten (sink.writeAll pieces) := by
  induction pieces generalizing sink with
  | nil => exact .taken within (List.append_nil _).symm rfl rfl rfl
  | cons piece rest inductionHypothesis =>
      have offered := write_offered sink piece
      rw [writeAll, List.flatten_cons]
      split
      case h_1 next done =>
        rw [done] at offered
        -- What was taken fits, so that the output is still not over its bound.
        refine offered.append (inductionHypothesis ?_)
        cases offered with
        | taken fits whole size bound refusal =>
            exact (fits_append_iff size bound).mp (by rwa [List.append_nil])
      case h_2 next stopped =>
        rw [stopped] at offered
        exact offered.cut

end Sink

/-- The cause of a failure in the body is that of the encoding. -/
theorem Encoding.refused_eq (refusal : String) (form : Encoding) :
    form.refused refusal =
      match form with
      | .json => .json refusal
      | .xml => .xml refusal := by
  cases form <;> rfl

/-- How the writing of a document can end. -/
inductive Bom.Ends (bom : Bom) (version : SpecVersion) (encoding : Encoding) (sink : Sink) :
    Sink × Except EncodingCause Unit → Prop where
  /-- There is room for the whole document. -/
  | complete {after : Sink} (fits : sink.Fits (bom.written version encoding))
      (whole : after.text = sink.text ++ bom.written version encoding) :
      Ends bom version encoding sink (after, .ok ())
  /-- There is room for the body but not for the line break behind it. -/
  | atLineBreak {after : Sink}
      (fits : sink.Fits (bom.bodyPieces version encoding).flatten)
      (exceeds : ¬ sink.Fits (bom.written version encoding))
      (begun : after.text = sink.text ++ (bom.bodyPieces version encoding).flatten) :
      Ends bom version encoding sink (after, .error (.output sink.refusal))
  /-- There is no room for the body. -/
  | inBody {after : Sink} {part : List Char}
      (exceeds : ¬ sink.Fits (bom.bodyPieces version encoding).flatten)
      (isPart : part <+: (bom.bodyPieces version encoding).flatten)
      (begun : after.text = sink.text ++ part) :
      Ends bom version encoding sink (after, .error (encoding.refused sink.refusal))

/-- The failure to write a document that passed all checks. -/
def writingFailure (version : SpecVersion) (encoding : Encoding) (cause : EncodingCause) :
    Failure :=
  .encoding ("writing CycloneDX " ++ version.name ++ " " ++ encoding.name) cause

namespace Bom

variable {bom : Bom} {sink : Sink}

theorem write_ends (within : sink.Fits []) (version : SpecVersion) (encoding : Encoding) :
    bom.Ends version encoding sink (bom.write version encoding sink) := by
  have body := Sink.writeAll_offered within (bom.bodyPieces version encoding)
  rw [write]
  split
  case h_1 after stopped =>
    rw [stopped] at body
    cases body with
    | refused exceeds isPart begun refusal =>
        rw [refusal]
        exact .inBody exceeds isPart begun
  case h_2 middle done =>
    rw [done] at body
    have all := body.append (middle.write_offered ['\n'])
    cases body with
    | taken fits whole size bound refusal =>
        split
        case h_1 after stopped =>
          cases Sink.eq_of_write_refused stopped
          rw [stopped] at all
          cases all with
          | refused exceeds =>
              rw [refusal]
              exact .atLineBreak fits exceeds whole
        case h_2 after taken =>
          rw [taken] at all
          cases all with
          | taken fits whole => exact .complete fits whole

/-- The text of a document has one byte more than its body. -/
theorem byteCount_written (bom : Bom) (version : SpecVersion) (encoding : Encoding) :
    Sink.byteCount (bom.written version encoding) =
      Sink.byteCount (bom.bodyPieces version encoding).flatten + 1 := by
  rw [written, Sink.byteCount_append]
  rfl

/-- The number of bytes decides how the writing into an output with a bound ends. -/
theorem write_bounded (bom : Bom) (version : SpecVersion) (encoding : Encoding) (limit : Nat)
    (refusal : String) :
    ∃ after result, bom.write version encoding { bound := some limit, refusal } = (after, result) ∧
      after.text <+: bom.written version encoding ∧
      ((Sink.byteCount (bom.written version encoding) ≤ limit ∧ result = .ok () ∧
          after.text = bom.written version encoding) ∨
        (limit + 1 = Sink.byteCount (bom.written version encoding) ∧
          result = .error (.output refusal)) ∨
        (limit + 1 < Sink.byteCount (bom.written version encoding) ∧
          result = .error (encoding.refused refusal))) := by
  have fitsIff : ∀ text, ({ bound := some limit, refusal } : Sink).Fits text ↔
      Sink.byteCount text ≤ limit := by
    simp [Sink.Fits]
  have ends := bom.write_ends ((fitsIff []).mpr (Nat.zero_le limit)) version encoding
  have oneMore := bom.byteCount_written version encoding
  obtain ⟨after, result, writes⟩ : ∃ after result,
      bom.write version encoding { bound := some limit, refusal } = (after, result) := ⟨_, _, rfl⟩
  rw [writes] at ends
  refine ⟨after, result, writes, ?_⟩
  cases ends with
  | complete fits whole =>
      have whole := whole.trans (List.nil_append _)
      exact ⟨whole ▸ List.prefix_refl _, .inl ⟨(fitsIff _).mp fits, rfl, whole⟩⟩
  | atLineBreak fits exceeds begun =>
      rw [fitsIff] at fits exceeds
      refine ⟨?_, .inr (.inl ⟨by omega, rfl⟩)⟩
      rw [begun]
      exact List.prefix_append _ _
  | inBody exceeds isPart begun =>
      rw [fitsIff] at exceeds
      refine ⟨?_, .inr (.inr ⟨by omega, rfl⟩)⟩
      rw [begun]
      exact isPart.trans (List.prefix_append _ _)

variable {version encoding : String} {target : SpecVersion} {form : Encoding}

/-- A document that is accepted has no defect. -/
theorem Accepted.defect?_eq_none (accepted : bom.Accepted version encoding)
    (parsed : Encoding.parse encoding = .ok form) : bom.defect? form = none :=
  defect?_eq_none_iff.mpr
    ⟨accepted.sound, fun isXml => accepted.characters (by rw [parsed, isXml])⟩

/-- A document that has no defect is written as the version can have it. -/
theorem encode_eq_write (known : SpecVersion.parse version = .ok target)
    (parsed : Encoding.parse encoding = .ok form) (passes : bom.defect? form = none)
    {after : Sink} {result : Except EncodingCause Unit}
    (writes : (bom.downgrade target).write target form sink = (after, result)) :
    bom.encode version encoding sink = (after, result.mapError (writingFailure target form)) := by
  simp only [encode, resolveTarget, known, parsed, passes, writes]
  rfl

/-- An output without a bound takes the whole text of a document that has no defect. -/
theorem exists_encode_eq_ok (known : SpecVersion.parse version = .ok target)
    (parsed : Encoding.parse encoding = .ok form) (passes : bom.defect? form = none) :
    ∃ full, bom.encode version encoding {} = (full, .ok ()) ∧
      full.text = (bom.downgrade target).written target form := by
  obtain ⟨full, freely⟩ : ∃ full, (bom.downgrade target).write target form {} = (full, .ok ()) :=
    ⟨_, Prod.ext rfl (write_of_unbounded rfl target form)⟩
  exact ⟨full, encode_eq_write known parsed passes freely,
    (text_of_write freely).trans (List.nil_append _)⟩

end Bom

/-- Encoding a document into an output with a bound, beside encoding it into one without. If that
fails, the bounded one fails alike and takes nothing. If it succeeds, the bounded one takes the same
text exactly if it has room for all bytes of it; it fails with the cause of the output exactly if
room for one byte is missing, which is the line break at the end, and with the cause of the encoding
exactly if more is missing. Whenever it fails, the bytes it took are a beginning of all bytes. -/
theorem encode_bounded (bom : Bom) (version encoding : String) (limit : Nat) (refusal : String) :
    let unbounded := bom.encode version encoding {}
    let bounded := bom.encode version encoding { bound := some limit, refusal }
    (∀ failure, unbounded.2 = .error failure →
      bounded.2 = .error failure ∧ bounded.1.bytes = []) ∧
    (unbounded.2 = .ok () → ∃ target form, SpecVersion.parse version = .ok target ∧
      Encoding.parse encoding = .ok form ∧
      (bounded.2 = .ok () ↔ unbounded.1.bytes.length ≤ limit) ∧
      (bounded.2 = .ok () → bounded.1.text = unbounded.1.text) ∧
      (bounded.2 = .error (writingFailure target form (.output refusal)) ↔
        limit + 1 = unbounded.1.bytes.length) ∧
      (bounded.2 = .error (writingFailure target form
          (match form with
            | .json => .json refusal
            | .xml => .xml refusal)) ↔
        limit + 1 < unbounded.1.bytes.length)) ∧
    ∀ failure, bounded.2 = .error failure → bounded.1.bytes <+: unbounded.1.bytes := by
  intro unbounded bounded
  rcases bom.accepted_or_refused version encoding with accepted | ⟨reason, refused⟩
  · obtain ⟨target, known⟩ := accepted.versionKnown
    obtain ⟨form, parsed⟩ := accepted.encodingKnown
    have passes := accepted.defect?_eq_none parsed
    obtain ⟨full, freely, whole⟩ := Bom.exists_encode_eq_ok known parsed passes
    obtain ⟨after, result, writes, isPart, ends⟩ :=
      (bom.downgrade target).write_bounded target form limit refusal
    have unboundedIs : unbounded = (full, .ok ()) := freely
    have boundedIs : bounded = (after, result.mapError (writingFailure target form)) :=
      Bom.encode_eq_write known parsed passes writes
    have begins : after.bytes <+: full.bytes := Sink.utf8_prefix (by rwa [whole])
    simp only [unboundedIs, boundedIs, Sink.length_bytes, whole, ← Encoding.refused_eq]
    refine ⟨nofun, fun _ => ⟨target, form, known, parsed, ?_⟩, fun _ _ => begins⟩
    have causesDiffer : form.refused refusal ≠ .output refusal := by cases form <;> nofun
    rcases ends with ⟨fits, rfl, same⟩ | ⟨missesOne, rfl⟩ | ⟨missesMore, rfl⟩
    · refine ⟨iff_of_true rfl fits, fun _ => same, ?_, ?_⟩
      · exact iff_of_false nofun (by omega)
      · exact iff_of_false nofun (by omega)
    · refine ⟨iff_of_false nofun (by omega), nofun, iff_of_true rfl missesOne, ?_⟩
      refine iff_of_false (fun same => causesDiffer ?_) (by omega)
      simpa [Except.mapError, writingFailure] using same.symm
    · refine ⟨iff_of_false nofun (by omega), nofun, ?_, iff_of_true rfl missesMore⟩
      refine iff_of_false (fun same => causesDiffer ?_) (by omega)
      simpa [Except.mapError, writingFailure] using same
  · have fails : unbounded = ({}, .error reason) := refused.encode_eq
    have failsToo : bounded = ({ bound := some limit, refusal }, .error reason) :=
      refused.encode_eq
    rw [fails, failsToo]
    refine ⟨fun failure same => ⟨same, rfl⟩, ?_, fun _ _ => List.prefix_refl []⟩
    intro succeeds
    cases succeeds

/-- A document with a component in a component, the inner one with a name of five bytes. -/
def accentedBom : Bom where
  components := [.node { ref := "app" } [.leaf { ref := "lib", name := "café" }]]

theorem encode_bounded_accentedBom :
    (accentedBom.encode "1.5" "json" { bound := some 346, refusal := "full" }).2 = .ok () ∧
    (accentedBom.encode "1.5" "json" { bound := some 345, refusal := "full" }).2 =
      .error (.encoding "writing CycloneDX 1.5 json" (.output "full")) ∧
    (accentedBom.encode "1.5" "json" { bound := some 344, refusal := "full" }).2 =
      .error (.encoding "writing CycloneDX 1.5 json" (.json "full")) ∧
    (accentedBom.encode "1.5" "json" { bound := some 344, refusal := "full" }).1.bytes <+:
      (accentedBom.encode "1.5" "json" {}).1.bytes ∧
    (accentedBom.encode "1.5" "xml" { bound := some 385, refusal := "full" }).2 =
      .error (.encoding "writing CycloneDX 1.5 xml" (.output "full")) ∧
    (accentedBom.encode "1.5" "xml" { bound := some 384, refusal := "full" }).2 =
      .error (.encoding "writing CycloneDX 1.5 xml" (.xml "full")) ∧
    (accentedBom.encode "1.5" "toml" { bound := some 344, refusal := "full" }).2 =
      (accentedBom.encode "1.5" "toml" {}).2 := by
  have known : SpecVersion.parse "1.5" = .ok .v1_5 := by rfl
  have parsed : Encoding.parse "json" = .ok .json := by rfl
  have parsedXml : Encoding.parse "xml" = .ok .xml := by rfl
  have succeeds : (accentedBom.encode "1.5" "json" {}).2 = .ok () := by rfl
  have size : (accentedBom.encode "1.5" "json" {}).1.bytes.length = 346 := by decide +kernel
  have sound : accentedBom.defect? .xml = none :=
    Bom.defect?_eq_none_iff.mpr ⟨⟨by decide, by decide⟩, fun _ => by decide⟩
  obtain ⟨full, freely, whole⟩ := Bom.exists_encode_eq_ok known parsedXml sound
  have sizeOfXml : full.bytes.length = 386 := by
    rw [Sink.length_bytes, whole, Bom.written, Bom.bodyPieces, Bom.element,
      Text.decimalText_eq_toString]
    decide +kernel
  have atLimit (limit : Nat) := encode_bounded accentedBom "1.5" "json" limit "full"
  have atLimitOfXml (limit : Nat) := encode_bounded accentedBom "1.5" "xml" limit "full"
  simp only [succeeds, size, known, parsed] at atLimit
  simp only [freely, sizeOfXml, known, parsedXml] at atLimitOfXml
  -- Only the limit tells the cases of an encoding apart.
  obtain ⟨target, form, ⟨⟩, ⟨⟩, complete, -⟩ := (atLimit 346).2.1 trivial
  obtain ⟨target, form, ⟨⟩, ⟨⟩, -, -, atLineBreak, -⟩ := (atLimit 345).2.1 trivial
  obtain ⟨target, form, ⟨⟩, ⟨⟩, -, -, -, inBody⟩ := (atLimit 344).2.1 trivial
  obtain ⟨target, form, ⟨⟩, ⟨⟩, -, -, atLineBreakOfXml, -⟩ := (atLimitOfXml 385).2.1 trivial
  obtain ⟨target, form, ⟨⟩, ⟨⟩, -, -, -, inBodyOfXml⟩ := (atLimitOfXml 384).2.1 trivial
  have refused := encode_bounded accentedBom "1.5" "toml" 344 "full"
  obtain ⟨failure, fails⟩ : ∃ failure, (accentedBom.encode "1.5" "toml" {}).2 = .error failure :=
    ⟨_, rfl⟩
  have fails344 := inBody.mpr (by decide)
  exact ⟨complete.mpr (by decide), atLineBreak.mpr rfl, fails344, (atLimit 344).2.2 _ fails344,
    atLineBreakOfXml.mpr rfl, inBodyOfXml.mpr (by decide),
    (refused.1 failure fails).1.trans fails.symm⟩

end Sbom.CycloneDx
