import Sbom.Proofs.Labels
import Sbom.Proofs.Scanning

/-!
# What the tokens of an element tell

An element that holds text and one that holds elements may have the same tokens: the text may be the
line break before a closing tag. Where the names of elements tell the two kinds apart, the tokens of an
element determine the element.
-/

namespace Sbom.Xml

/-- Whether the elements that hold text are those with a name of a list. -/
inductive Element.IsRegular (textNames : List String) : Element → Prop where
  /-- An element without content. -/
  | empty {name : String} {attributes : List Attribute} :
      IsRegular textNames (.empty name attributes)
  /-- An element that holds text. -/
  | text {name : String} {attributes : List Attribute} {content : String}
      (listed : name ∈ textNames) : IsRegular textNames (.text name attributes content)
  /-- An element that holds elements. -/
  | parent {name : String} {attributes : List Attribute} {children : List Element}
      (unlisted : name ∉ textNames) (inside : ∀ child ∈ children, child.IsRegular textNames) :
      IsRegular textNames (.parent name attributes children)

theorem escape_inj {text other : String} : escape text = escape other ↔ text = other := by
  refine ⟨fun same => ?_, fun same => same ▸ rfl⟩
  have sameChars : some text.toList = some other.toList :=
    (unescape?_escape text).symm.trans ((congrArg _ same).trans (unescape?_escape other))
  exact String.toList_inj.mp (Option.some.inj sameChars)

theorem rawAttributes_inj {attributes others : List Attribute} :
    rawAttributes attributes = rawAttributes others ↔ attributes = others := by
  have injective : Function.Injective fun pair : Attribute => (pair.1, escape pair.2) := by
    rintro ⟨name, value⟩ ⟨other, otherValue⟩ same
    simpa [escape_inj] using same
  exact (List.map_injective_iff.mpr injective).eq_iff

section Tokens

variable {textNames : List String} {rest others : List Token} {name : String}

/-- The text before a closing tag can be told from the tokens. -/
theorem dataTokens_append_inj {text other : List Char}
    (same : dataTokens text ++ .tag .closing name [] :: rest =
      dataTokens other ++ .tag .closing name [] :: others) : text = other ∧ rest = others := by
  unfold dataTokens at same
  split at same <;> split at same <;> simp_all

/-- An element starts with a tag that does not close another one. -/
theorem tokens_eq_cons (depth : Nat) (element : Element) :
    ∃ form name attributes more,
      element.tokens depth = .tag form name attributes :: more ∧ form ≠ .closing := by
  cases element with
  | empty name attributes => exact ⟨.single, name, _, _, rfl, by decide⟩
  | text name attributes content => exact ⟨.opening, name, _, _, rfl, by decide⟩
  | parent name attributes children => exact ⟨.opening, name, _, _, rfl, by decide⟩

mutual

/-- The tokens of an element, with others after them, determine the element and the others. -/
theorem tokens_append_inj (depth : Nat) : (left right : Element) → left.IsRegular textNames →
    right.IsRegular textNames → ∀ rest others : List Token,
    left.tokens depth ++ rest = right.tokens depth ++ others → left = right ∧ rest = others
  | .empty name attributes, .empty other otherAttributes, _, _, rest, others, same => by
    simp only [Element.tokens, List.singleton_append, List.cons.injEq, Token.tag.injEq,
      rawAttributes_inj, true_and] at same
    obtain ⟨⟨rfl, rfl⟩, rfl⟩ := same
    exact ⟨rfl, rfl⟩
  | .text name attributes content, .text other otherAttributes otherContent, _, _, rest, others,
      same => by
    simp only [Element.tokens, List.cons_append, List.append_assoc, List.cons.injEq,
      Token.tag.injEq, rawAttributes_inj, true_and] at same
    obtain ⟨⟨rfl, rfl⟩, sameContent⟩ := same
    obtain ⟨sameText, rfl⟩ := dataTokens_append_inj sameContent
    exact ⟨congrArg _ (escape_inj.mp sameText), rfl⟩
  | .parent name attributes children, .parent other otherAttributes otherChildren,
      .parent _ inside, .parent _ otherInside, rest, others, same => by
    simp only [Element.tokens, List.cons_append, List.append_assoc, List.cons.injEq,
      Token.tag.injEq, rawAttributes_inj, true_and] at same
    obtain ⟨⟨rfl, rfl⟩, sameContent⟩ := same
    obtain ⟨rfl, rfl⟩ := childTokens_append_inj (depth + 1) (lineBreak depth) name children
      otherChildren inside otherInside rest others sameContent
    exact ⟨rfl, rfl⟩
  | .text name attributes content, .parent other otherAttributes children, .text listed,
      .parent unlisted _, rest, others, same => by
    simp only [Element.tokens, List.cons_append, List.cons.injEq, Token.tag.injEq] at same
    exact absurd (same.1.2.1 ▸ listed) unlisted
  | .parent name attributes children, .text other otherAttributes content, .parent unlisted _,
      .text listed, rest, others, same => by
    simp only [Element.tokens, List.cons_append, List.cons.injEq, Token.tag.injEq] at same
    exact absurd (same.1.2.1 ▸ listed) unlisted
  | .empty _ _, .text _ _ _, _, _, rest, others, same => by simp [Element.tokens] at same
  | .empty _ _, .parent _ _ _, _, _, rest, others, same => by simp [Element.tokens] at same
  | .text _ _ _, .empty _ _, _, _, rest, others, same => by simp [Element.tokens] at same
  | .parent _ _ _, .empty _ _, _, _, rest, others, same => by simp [Element.tokens] at same

/-- The tokens inside of an element, to its closing tag, determine the elements inside. -/
theorem childTokens_append_inj (depth : Nat) (outer : List Char) (name : String) :
    (left right : List Element) → (∀ child ∈ left, child.IsRegular textNames) →
    (∀ child ∈ right, child.IsRegular textNames) → ∀ rest others : List Token,
    childTokens depth left ++ .data outer :: .tag .closing name [] :: rest =
      childTokens depth right ++ .data outer :: .tag .closing name [] :: others →
    left = right ∧ rest = others
  | [], [], _, _, rest, others, same => ⟨rfl, by simpa [childTokens] using same⟩
  | [], child :: _, _, _, rest, others, same => by
    obtain ⟨form, tag, attributes, more, starts, notClosing⟩ := tokens_eq_cons depth child
    simp only [childTokens, List.nil_append, List.cons_append, starts, List.cons.injEq,
      Token.tag.injEq] at same
    exact absurd same.2.1.1.symm notClosing
  | child :: _, [], _, _, rest, others, same => by
    obtain ⟨form, tag, attributes, more, starts, notClosing⟩ := tokens_eq_cons depth child
    simp only [childTokens, List.nil_append, List.cons_append, starts, List.cons.injEq,
      Token.tag.injEq] at same
    exact absurd same.2.1.1 notClosing
  | child :: siblings, other :: otherSiblings, inside, otherInside, rest, others, same => by
    obtain ⟨regular, regularRest⟩ := List.forall_mem_cons.mp inside
    obtain ⟨otherRegular, otherRest⟩ := List.forall_mem_cons.mp otherInside
    simp only [childTokens, List.cons_append, List.append_assoc, List.cons.injEq, true_and] at same
    obtain ⟨rfl, following⟩ := tokens_append_inj depth child other regular otherRegular _ _ same
    obtain ⟨rfl, rfl⟩ := childTokens_append_inj depth outer name siblings otherSiblings
      regularRest otherRest rest others following
    exact ⟨rfl, rfl⟩

end

/-- A text is the document of one regular element at most. -/
theorem root_eq_of_isDocument {left right : Element} {text : List Char} {other : String}
    (regular : left.IsRegular textNames) (otherRegular : right.IsRegular textNames)
    (isDocument : IsDocument text name (left.tokens 0))
    (isOther : IsDocument text other (right.tokens 0)) : left = right := by
  have same := Option.some.inj (isDocument.reads.symm.trans isOther.reads)
  rw [List.cons.injEq, List.cons.injEq] at same
  exact (tokens_append_inj 0 left right regular otherRegular _ _ same.2.2).1

end Tokens

end Sbom.Xml
