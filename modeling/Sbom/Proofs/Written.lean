import Sbom.Proofs.Refusal

/-!
# What is written

`Bom.Written` relates a document to the text that an encoding of it adds to an output. Which output
that is does not matter: the text is the body of the document in the form that the checks let pass,
and a line break.
-/

namespace Sbom.CycloneDx

namespace Sink

variable {sink after : Sink}

/-- A piece that an output takes comes after what it has. -/
theorem text_of_write {piece : List Char} (taken : sink.write piece = (after, true)) :
    after.text = sink.text ++ piece := by
  simp only [write] at taken
  split at taken
  case isFalse => cases taken
  case isTrue =>
    cases taken
    simp [text]

/-- Pieces that an output takes come in order after what it has. -/
theorem text_of_writeAll {pieces : List (List Char)}
    (taken : sink.writeAll pieces = (after, true)) : after.text = sink.text ++ pieces.flatten := by
  induction pieces generalizing sink with
  | nil =>
      cases taken
      rw [List.flatten_nil, List.append_nil]
  | cons piece rest inductionHypothesis =>
      rw [writeAll] at taken
      cases first : sink.write piece with
      | mk next accepted =>
          rw [first] at taken
          cases accepted with
          | false => cases taken
          | true =>
              rw [inductionHypothesis taken, text_of_write first, List.flatten_cons,
                List.append_assoc]

end Sink

namespace Bom

variable {bom : Bom} {version encoding : String} {text : List Char}

/-- The text of a document in an encoding: its body and a line break. -/
def written (bom : Bom) (version : SpecVersion) (encoding : Encoding) : List Char :=
  (bom.bodyPieces version encoding).flatten ++ ['\n']

/-- Whether encoding a document writes a text after what some output has. -/
def Written (bom : Bom) (version encoding : String) (text : List Char) : Prop :=
  ∃ sink after, bom.encode version encoding sink = (after, .ok ()) ∧ after.text = sink.text ++ text

theorem text_of_write {target : SpecVersion} {form : Encoding} {sink after : Sink}
    (done : bom.write target form sink = (after, .ok ())) :
    after.text = sink.text ++ bom.written target form := by
  unfold write at done
  split at done
  case h_1 => cases done
  case h_2 middle bodyTaken =>
    split at done
    case h_1 => cases done
    case h_2 last breakTaken =>
      cases done
      rw [Sink.text_of_write breakTaken, Sink.text_of_writeAll bodyTaken, written,
        List.append_assoc]

/-- A document is written exactly if version and encoding are known and it has no defect; the text is
that of the document as the version can have it. -/
theorem written_iff :
    bom.Written version encoding text ↔
      ∃ target form, SpecVersion.parse version = .ok target ∧
        Encoding.parse encoding = .ok form ∧ bom.defect? form = none ∧
        text = (bom.downgrade target).written target form := by
  constructor
  · rintro ⟨sink, after, done, isText⟩
    cases versionParses : SpecVersion.parse version with
    | error cause => simp [encode, resolveTarget, versionParses] at done
    | ok target =>
        cases encodingParses : Encoding.parse encoding with
        | error cause => simp [encode, resolveTarget, versionParses, encodingParses] at done
        | ok form =>
            cases found : bom.defect? form with
            | some defect =>
                rw [encode_of_defect versionParses encodingParses found] at done
                cases done
            | none =>
                refine ⟨target, form, rfl, rfl, found, ?_⟩
                simp only [encode, resolveTarget, versionParses, encodingParses, found] at done
                cases result : (bom.downgrade target).write target form sink with
                | mk last outcome =>
                    rw [result] at done
                    cases outcome with
                    | error cause => cases done
                    | ok =>
                        cases done
                        exact List.append_cancel_left (isText.symm.trans (text_of_write result))
  · rintro ⟨target, form, versionParses, encodingParses, valid, rfl⟩
    have unbounded : ({} : Sink).bound = none := rfl
    have done : ((bom.downgrade target).write target form {}).2 = .ok () :=
      write_of_unbounded unbounded target form
    cases result : (bom.downgrade target).write target form {} with
    | mk after outcome =>
        rw [result] at done
        cases done
        refine ⟨{}, after, ?_, text_of_write result⟩
        simp only [encode, resolveTarget, versionParses, encodingParses, valid, result,
          Except.mapError]

/-- What is written in a known version and encoding is the text of the document in these. -/
theorem Written.text_eq {target : SpecVersion} {form : Encoding}
    (written : bom.Written version encoding text) (known : SpecVersion.parse version = .ok target)
    (isForm : Encoding.parse encoding = .ok form) :
    text = (bom.downgrade target).written target form := by
  obtain ⟨_, _, versionParses, encodingParses, -, isText⟩ := written_iff.mp written
  cases known.symm.trans versionParses
  cases isForm.symm.trans encodingParses
  exact isText

end Bom

end Sbom.CycloneDx
