import Mathlib.Data.List.Induction
import Sbom.Proofs.Escaping
import Sbom.Xml.Report

/-!
# Line ends and tokens

Making all line ends of a text line feeds and then finding its tokens comes to the same as finding the
tokens and then making the line ends in them line feeds: outside of values, instructions and text
between tags no line end can stand. What is reported for an escaped attribute value is therefore the
value it was made from, with a space for every line end and every tab in it.
-/

namespace Sbom.Xml

/-- Whether a text ends in a carriage return; `before` says so of the text before it. -/
def endsInReturn (before : Bool) (text : List Char) : Bool :=
  text.foldl (fun _ c => c == '\r') before

/-- What becomes of a character that does not go on with a line end. -/
def unifiedChar (c : Char) : Char :=
  if c = '\r' then '\n' else c

section Lines

variable {text : List Char} {c : Char}

/-- The step of the reading: a line feed after a carriage return adds nothing. -/
theorem unifyLinesFrom_cons (afterReturn : Bool) (c : Char) (rest : List Char) :
    unifyLinesFrom afterReturn (c :: rest) =
      if c = '\n' ∧ afterReturn = true then unifyLinesFrom false rest
      else unifiedChar c :: unifyLinesFrom (c == '\r') rest := by
  rw [unifyLinesFrom, unifiedChar]
  by_cases isReturn : c = '\r'
  · simp [isReturn]
  · simp [isReturn, beq_eq_false_iff_ne.mpr isReturn]

/-- Lines are unified from left to right, and of what was read only the last character counts. -/
theorem unifyLinesFrom_append (afterReturn : Bool) (text rest : List Char) :
    unifyLinesFrom afterReturn (text ++ rest) =
      unifyLinesFrom afterReturn text ++ unifyLinesFrom (endsInReturn afterReturn text) rest := by
  induction text generalizing afterReturn with
  | nil => rfl
  | cons c text inductionHypothesis =>
      rw [List.cons_append, unifyLinesFrom_cons, unifyLinesFrom_cons, inductionHypothesis,
        inductionHypothesis, endsInReturn, endsInReturn, endsInReturn, List.foldl_cons]
      split
      case isTrue isBreak => rw [isBreak.1]; rfl
      case isFalse => rfl

theorem unifyLines_concat (text : List Char) (c : Char) :
    unifyLines (text ++ [c]) =
      if c = '\n' ∧ endsInReturn false text = true then unifyLines text
      else unifyLines text ++ [unifiedChar c] := by
  rw [unifyLines, unifyLinesFrom_append, unifyLinesFrom_cons]
  split <;> simp [unifyLines, unifyLinesFrom]

/-- A character that does not go on with a line end is one more character. -/
theorem unifyLines_concat_of_apart (apart : ¬ (c = '\n' ∧ endsInReturn false text = true)) :
    unifyLines (text ++ [c]) = unifyLines text ++ [unifiedChar c] := by
  rw [unifyLines_concat, if_neg apart]

theorem unifyLines_eq_nil_iff : unifyLines text = [] ↔ text = [] := by
  cases text with
  | nil => simp [unifyLines, unifyLinesFrom]
  | cons c rest => simp [unifyLines, unifyLinesFrom_cons]

theorem endsInReturn_iff : endsInReturn false text = true ↔ text.getLast? = some '\r' := by
  rcases List.eq_nil_or_concat text with rfl | ⟨before, c, rfl⟩ <;> simp [endsInReturn]

theorem getLast?_unifyLines (text : List Char) :
    (unifyLines text).getLast? = text.getLast?.map unifiedChar := by
  induction text using List.reverseRecOn with
  | nil => rfl
  | append_singleton before c inductionHypothesis =>
      rw [unifyLines_concat]
      split
      case isTrue isBreak =>
        rw [inductionHypothesis, endsInReturn_iff.mp isBreak.2, isBreak.1, List.getLast?_concat]
        rfl
      case isFalse => simp

/-- A character that no line end has is none that was unified. -/
theorem unifiedChar_eq_iff {d : Char} (notBreak : d ≠ '\n') (notReturn : d ≠ '\r') :
    unifiedChar c = d ↔ c = d := by
  unfold unifiedChar
  split
  case isTrue isReturn => simp [isReturn, Ne.symm notBreak, Ne.symm notReturn]
  case isFalse => rfl

/-- A last character that is no line feed can be taken away before or after. -/
theorem unifyLines_dropLast {d : Char} (notBreak : d ≠ '\n') (last : text.getLast? = some d) :
    unifyLines text.dropLast = (unifyLines text).dropLast := by
  obtain ⟨before, rfl⟩ := List.getLast?_eq_some_iff.mp last
  rw [unifyLines_concat, if_neg fun joined => notBreak joined.1, List.dropLast_concat,
    List.dropLast_concat]

@[simp] theorem isNameStart_unifiedChar : isNameStart (unifiedChar c) = isNameStart c := by
  unfold unifiedChar
  split
  case isTrue isReturn => rw [isReturn]; rfl
  case isFalse => rfl

@[simp] theorem isNameChar_unifiedChar : isNameChar (unifiedChar c) = isNameChar c := by
  unfold unifiedChar
  split
  case isTrue isReturn => rw [isReturn]; rfl
  case isFalse => rfl

/-- The characters of names are not touched. -/
theorem unifiedChar_of_isNameChar (named : isNameChar c = true) : unifiedChar c = c := by
  refine if_neg ?_
  rintro rfl
  exact absurd named (by decide)

end Lines

/-- An attribute with the line ends in its value unified. -/
def unifyAttribute (pair : RawAttribute) : RawAttribute :=
  (pair.1, unifyLines pair.2)

/-- A token with the line ends in it unified. -/
def Token.unified : Token → Token
  | .instruction text => .instruction (unifyLines text)
  | .tag form name attributes => .tag form name (attributes.map unifyAttribute)
  | .data text => .data (unifyLines text)

theorem dataTokens_unifyLines (text : List Char) :
    dataTokens (unifyLines text) = (dataTokens text).map Token.unified := by
  cases text with
  | nil => rfl
  | cons c rest =>
      have notEmpty : unifyLines (c :: rest) ≠ [] := by simp [unifyLines_eq_nil_iff]
      simp [dataTokens, notEmpty, Token.unified]

namespace Scanner

/-- The scanner with the line ends in what it has seen unified. -/
def unified : Scanner → Scanner
  | .data seen => .data (unifyLines seen)
  | .markup => .markup
  | .instruction seen => .instruction (unifyLines seen)
  | .closing seen => .closing seen
  | .name seen => .name seen
  | .between tag attributes => .between tag (attributes.map unifyAttribute)
  | .key tag attributes seen => .key tag (attributes.map unifyAttribute) seen
  | .equals tag attributes written => .equals tag (attributes.map unifyAttribute) written
  | .value tag attributes written seen =>
    .value tag (attributes.map unifyAttribute) written (unifyLines seen)
  | .slash tag attributes => .slash tag (attributes.map unifyAttribute)

/-- Whether the last character that a scanner keeps is a carriage return. -/
def afterReturn : Scanner → Bool
  | .data seen | .instruction seen | .value _ _ _ seen => endsInReturn false seen
  | _ => false

/-- What a step leaves, with line ends unified. -/
def unifiedStep (step : Scanner × List Token) : Scanner × List Token :=
  (step.1.unified, step.2.map Token.unified)

theorem continueTag_unified (tag : String) (attributes : List RawAttribute) (c : Char) :
    continueTag tag (attributes.map unifyAttribute) (unifiedChar c) =
      (continueTag tag attributes c).map unifiedStep := by
  simp only [continueTag, unifiedChar_eq_iff (d := ' ') (by decide) (by decide),
    unifiedChar_eq_iff (d := '/') (by decide) (by decide),
    unifiedChar_eq_iff (d := '>') (by decide) (by decide)]
  split
  · rfl
  · split
    · rfl
    · split <;> rfl

/-- A scanner takes a character that does not go on with a line end the same way before and after line
ends are unified. -/
theorem step_unified (scanner : Scanner) (c : Char)
    (apart : ¬ (c = '\n' ∧ scanner.afterReturn = true)) :
    scanner.unified.step (unifiedChar c) = (scanner.step c).map unifiedStep := by
  have mark : ∀ {e : Char} (d : Char), d ≠ '\n' ∧ d ≠ '\r' → (unifiedChar e = d ↔ e = d) :=
    fun d other => unifiedChar_eq_iff other.1 other.2
  cases scanner with
  | data seen =>
      have collected := unifyLines_concat_of_apart apart
      simp only [unified, step, mark '<' (by decide), ← collected, dataTokens_unifyLines]
      split <;> rfl
  | markup =>
      simp only [unified, step, mark '?' (by decide), mark '/' (by decide), isNameStart_unifiedChar]
      split
      · rfl
      · split
        · rfl
        · split
          case isTrue named =>
            rw [unifiedChar_of_isNameChar (by simp [isNameChar, named])]
            rfl
          case isFalse => rfl
  | instruction seen =>
      have collected := unifyLines_concat_of_apart apart
      have ends : (unifyLines seen).getLast? = some '?' ↔ seen.getLast? = some '?' := by
        rw [getLast?_unifyLines]
        simp [mark '?' (by decide)]
      simp only [unified, step, mark '>' (by decide), ends, ← collected]
      split
      case isTrue closes => rw [← unifyLines_dropLast (by decide) closes.2]; rfl
      case isFalse => rfl
  | closing seen =>
      simp only [unified, step, mark '>' (by decide), isNameChar_unifiedChar]
      split
      case isTrue named => rw [unifiedChar_of_isNameChar named]; rfl
      case isFalse => split <;> rfl
  | name seen =>
      simp only [unified, step, isNameChar_unifiedChar]
      split
      case isTrue named => rw [unifiedChar_of_isNameChar named]; rfl
      case isFalse => exact continueTag_unified _ [] c
  | between tag attributes => exact continueTag_unified tag attributes c
  | key tag attributes seen =>
      simp only [unified, step, mark '=' (by decide), isNameChar_unifiedChar]
      split
      case isTrue named => rw [unifiedChar_of_isNameChar named]; rfl
      case isFalse => split <;> rfl
  | equals tag attributes written =>
      simp only [unified, step, mark '\x22' (by decide)]
      split <;> rfl
  | value tag attributes written seen =>
      have collected := unifyLines_concat_of_apart apart
      simp only [unified, step, mark '\x22' (by decide), ← collected]
      split
      · simp [unifiedStep, unified, unifyAttribute]
      · rfl
  | slash tag attributes =>
      simp only [unified, step, mark '>' (by decide)]
      split <;> rfl

/-- A line feed that goes on with a line end is kept, and the unified scanner does not see it. -/
theorem step_joined {scanner : Scanner} (joined : scanner.afterReturn = true) :
    ∃ next, scanner.step '\n' = some (next, []) ∧ next.unified = scanner.unified ∧
      next.afterReturn = false := by
  have dropped : ∀ seen, endsInReturn false seen = true →
      unifyLines (seen ++ ['\n']) = unifyLines seen := by
    intro seen isReturn
    rw [unifyLines_concat, if_pos ⟨rfl, isReturn⟩]
  have closed : ∀ seen, endsInReturn false (seen ++ ['\n']) = false := by simp [endsInReturn]
  cases scanner with
  | data seen =>
      exact ⟨.data (seen ++ ['\n']), rfl, congrArg Scanner.data (dropped seen joined), closed seen⟩
  | instruction seen =>
      exact ⟨.instruction (seen ++ ['\n']), rfl, congrArg Scanner.instruction (dropped seen joined),
        closed seen⟩
  | value tag attributes written seen =>
      exact ⟨.value tag attributes written (seen ++ ['\n']), rfl,
        congrArg (Scanner.value tag (attributes.map unifyAttribute) written) (dropped seen joined),
        closed seen⟩
  | _ => cases joined

/-- A carriage return is the last character that a scanner keeps exactly if it was taken last. -/
theorem afterReturn_of_step {scanner next : Scanner} {c : Char} {completed : List Token}
    (steps : scanner.step c = some (next, completed)) : next.afterReturn = (c == '\r') := by
  have kept : ∀ seen, endsInReturn false (seen ++ [c]) = (c == '\r') := by simp [endsInReturn]
  have empty : endsInReturn false [] = false := rfl
  have named : isNameChar c = true → c ≠ '\r' := by
    rintro isNamed rfl
    exact absurd isNamed (by decide)
  have starts : isNameStart c = true → c ≠ '\r' := by
    rintro isStart rfl
    exact absurd isStart (by decide)
  cases scanner <;> simp only [step, continueTag] at steps <;> grind [afterReturn]

/-- A run over a text with unified line ends is the run over the text, with unified line ends. -/
theorem run_unifyLines (scanner : Scanner) (text : List Char) :
    scanner.unified.run (unifyLinesFrom scanner.afterReturn text) =
      (scanner.run text).map unifiedStep := by
  induction text generalizing scanner with
  | nil => rfl
  | cons c rest inductionHypothesis =>
      rw [unifyLinesFrom_cons]
      split
      case isTrue isBreak =>
        obtain ⟨rfl, joined⟩ := isBreak
        obtain ⟨next, steps, same, apart⟩ := step_joined joined
        have others := inductionHypothesis next
        rw [apart, same] at others
        simp [run, steps, others]
      case isFalse apart =>
        rw [run, run, step_unified scanner c apart]
        cases steps : scanner.step c with
        | none => rfl
        | some outcome =>
            obtain ⟨next, completed⟩ := outcome
            have others := inductionHypothesis next
            rw [afterReturn_of_step steps] at others
            simp only [Option.map_some, unifiedStep, others, Option.map_map]
            congr 1
            funext last
            simp [unifiedStep]

end Scanner

/-- The tokens of a text with unified line ends are those of the text, with unified line ends. -/
theorem tokens?_unifyLines (text : List Char) :
    tokens? (unifyLines text) = (tokens? text).map (List.map Token.unified) := by
  have run : Scanner.run (.data []) (unifyLines text) = _ := Scanner.run_unifyLines (.data []) text
  rw [tokens?, tokens?, run]
  cases Scanner.run (.data []) text with
  | none => rfl
  | some outcome =>
      obtain ⟨last, tokens⟩ := outcome
      cases last <;> simp [Scanner.unifiedStep, Scanner.unified, dataTokens_unifyLines]

section Values

variable {text rest : List Char}

/-- Text that has no line end, and is not nothing, stays as it is. -/
theorem unifyLinesFrom_append_of_apart (afterReturn : Bool) (rest : List Char)
    (noBreak : '\n' ∉ text) (noReturn : '\r' ∉ text) (notEmpty : text ≠ []) :
    unifyLinesFrom afterReturn (text ++ rest) = text ++ unifyLines rest := by
  induction text generalizing afterReturn with
  | nil => exact absurd rfl notEmpty
  | cons c following inductionHypothesis =>
      simp only [List.mem_cons, not_or] at noBreak noReturn
      rw [List.cons_append, unifyLinesFrom_cons, if_neg fun joined => noBreak.1 joined.1.symm,
        unifiedChar, if_neg (Ne.symm noReturn.1), beq_eq_false_iff_ne.mpr (Ne.symm noReturn.1),
        List.cons_append]
      cases following with
      | nil => rfl
      | cons => rw [inductionHypothesis false noBreak.2 noReturn.2 (by simp)]

/-- A reference has no line end, nor has what it stands for. -/
theorem apart_of_mem_references : ∀ pair ∈ references,
    '\n' ∉ '&' :: (pair.1 ++ [';']) ∧ '\r' ∉ '&' :: (pair.1 ++ [';']) ∧
      pair.2 ≠ '\n' ∧ pair.2 ≠ '\r' := by
  decide

theorem escapeChar_unifiedChar_of_plain {c : Char} (written : escapeChar c = [c]) :
    escapeChar (unifiedChar c) = [unifiedChar c] := by
  unfold unifiedChar
  split
  case isTrue => rfl
  case isFalse => exact written

/-- Line ends may be unified before or after markup characters are escaped. -/
theorem unifyLinesFrom_flatMap_escapeChar (afterReturn : Bool) (text : List Char) :
    unifyLinesFrom afterReturn (text.flatMap escapeChar) =
      (unifyLinesFrom afterReturn text).flatMap escapeChar := by
  induction text generalizing afterReturn with
  | nil => rfl
  | cons c rest inductionHypothesis =>
      rw [List.flatMap_cons, unifyLinesFrom_cons]
      rcases escapeChar_cases c with ⟨reference, member, written⟩ | ⟨-, -, -, written⟩
      · obtain ⟨noBreak, noReturn, notBreak, notReturn⟩ := apart_of_mem_references _ member
        rw [if_neg fun joined => notBreak joined.1, List.flatMap_cons, unifiedChar,
          if_neg notReturn, beq_eq_false_iff_ne.mpr notReturn, ← inductionHypothesis, written,
          unifyLinesFrom_append_of_apart afterReturn _ noBreak noReturn (by simp)]
        rfl
      · rw [written, List.singleton_append, unifyLinesFrom_cons]
        split
        case isTrue => exact inductionHypothesis false
        case isFalse =>
          rw [inductionHypothesis, List.flatMap_cons, escapeChar_unifiedChar_of_plain written,
            List.singleton_append]

/-- A reference is reported as the character it stands for. -/
theorem referenced?_of_mem_references : ∀ pair ∈ references,
    referenced? pair.1 = some (reportedChar pair.2) := by
  decide

/-- A reference that started is reported up to its semicolon. -/
theorem attributeValueFrom?_reference {seen : List Char} {c : Char} (inside : ';' ∉ text)
    (stands : referenced? (seen ++ text) = some c) :
    attributeValueFrom? (some seen) (text ++ ';' :: rest) =
      (attributeValueFrom? none rest).map (c :: ·) := by
  induction text generalizing seen with
  | nil =>
      rw [List.append_nil] at stands
      simp [attributeValueFrom?, stands]
  | cons first others inductionHypothesis =>
      simp only [List.mem_cons, not_or] at inside
      rw [List.cons_append, attributeValueFrom?, if_neg (Ne.symm inside.1)]
      exact inductionHypothesis inside.2 (by rwa [List.append_assoc, List.singleton_append])

theorem attributeValueFrom?_escapeChar (c : Char) (rest : List Char) :
    attributeValueFrom? none (escapeChar c ++ rest) =
      (attributeValueFrom? none rest).map (reportedChar c :: ·) := by
  rcases escapeChar_cases c with ⟨reference, member, written⟩ | ⟨-, notAmpersand, -, written⟩
  · have stands := referenced?_of_mem_references _ member
    have closed : ';' ∉ reference := fun mark =>
      absurd (small_of_mem_references member _ mark) (by decide)
    rw [written, List.cons_append, List.append_assoc, attributeValueFrom?, if_pos rfl]
    exact attributeValueFrom?_reference closed stands
  · rw [written, List.singleton_append, attributeValueFrom?, if_neg notAmpersand]

/-- For an escaped value the text it was made from is reported, with a space for every line end and
every tab. -/
theorem attributeValue?_unifyLines_escape (text : String) :
    attributeValue? (unifyLines (escape text)) = some (reportedText text) := by
  have reported : ∀ chars : List Char,
      attributeValueFrom? none (chars.flatMap escapeChar) = some (chars.map reportedChar) := by
    intro chars
    induction chars with
    | nil => rfl
    | cons c rest inductionHypothesis =>
        rw [List.flatMap_cons, attributeValueFrom?_escapeChar, inductionHypothesis,
          Option.map_some, List.map_cons]
  rw [attributeValue?, unifyLines, escape, unifyLinesFrom_flatMap_escapeChar, reported,
    Option.map_some]
  rfl

/-- A text without tabs and line ends is reported as it is, and no other one is. -/
theorem reportedText_eq_self_iff (text : String) :
    reportedText text = text ↔ '\t' ∉ text.toList ∧ '\n' ∉ text.toList ∧ '\r' ∉ text.toList := by
  have noSpace : ∀ c d : Char, d = '\t' ∨ d = '\n' ∨ d = '\r' → reportedChar c ≠ d := by
    intro c d isSpace
    unfold reportedChar
    grind
  constructor
  · intro same
    rw [← same, reportedText, String.toList_ofList]
    simp [noSpace]
  · rintro ⟨noTab, noBreak, noReturn⟩
    have unified : unifyLines text.toList = text.toList := by
      by_cases isEmpty : text.toList = []
      · rw [isEmpty]; rfl
      · simpa [unifyLines, unifyLinesFrom] using
          unifyLinesFrom_append_of_apart false [] noBreak noReturn isEmpty
    have same : text.toList.map reportedChar = text.toList := by
      conv_rhs => rw [← List.map_id text.toList]
      refine List.map_congr_left fun c member => ?_
      refine if_neg ?_
      rintro (rfl | rfl | rfl)
      exacts [noTab member, noBreak member, noReturn member]
    rw [reportedText, unified, same, String.ofList_toList]

end Values

end Sbom.Xml
