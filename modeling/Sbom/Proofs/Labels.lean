import Mathlib.Data.List.Forall2
import Mathlib.Data.List.Nodup

/-!
# Lists made of labelled parts

A written form lines up parts, each of them empty or made of items with one label. If the labels of
the parts are distinct, the whole list determines every part.
-/

namespace Sbom

variable {α β : Type}

/-- Whether every item of a part has the label of the part. -/
def IsPart (label : β → String) (name : String) (part : List β) : Prop :=
  ∀ item ∈ part, label item = name

section Parts

variable {label : β → String} {names : List String} {parts others : List (List β)}

/-- No item of the parts has a label that none of the parts has. -/
theorem label_ne_of_mem_flatten (labelled : List.Forall₂ (IsPart label) names parts) {name : String}
    (absent : name ∉ names) : ∀ item ∈ parts.flatten, label item ≠ name := by
  induction labelled with
  | nil => simp
  | cons first _ inductionHypothesis =>
      simp only [List.mem_cons, not_or] at absent
      rw [List.flatten_cons, List.forall_mem_append]
      exact ⟨fun item member same => absent.1 (same.symm.trans (first item member)),
        inductionHypothesis absent.2⟩

/-- The items with a label are the part with that label, if it comes first. -/
theorem filter_label_append {name : String} {part rest : List β} (first : IsPart label name part)
    (others : ∀ item ∈ rest, label item ≠ name) :
    (part ++ rest).filter (fun item => label item = name) = part := by
  have none : rest.filter (fun item => label item = name) = [] := by
    rw [List.filter_eq_nil_iff]
    simpa using others
  rw [List.filter_append, none, List.append_nil, List.filter_eq_self]
  simpa [IsPart] using first

/-- Parts with distinct labels are determined by the list that they make up. -/
theorem parts_eq_of_flatten_eq (distinct : names.Nodup)
    (labelled : List.Forall₂ (IsPart label) names parts)
    (labelledOthers : List.Forall₂ (IsPart label) names others)
    (same : parts.flatten = others.flatten) : parts = others := by
  induction labelled generalizing others with
  | nil =>
      cases labelledOthers
      rfl
  | @cons name part names parts first following inductionHypothesis =>
      cases labelledOthers with
      | @cons _ other _ others firstOther followingOthers =>
          rw [List.nodup_cons] at distinct
          rw [List.flatten_cons, List.flatten_cons] at same
          have samePart : part = other := by
            rw [← filter_label_append first (label_ne_of_mem_flatten following distinct.1), same,
              filter_label_append firstOther (label_ne_of_mem_flatten followingOthers distinct.1)]
          rw [samePart, List.append_cancel_left_eq] at same
          rw [samePart, inductionHypothesis distinct.2 followingOthers same]

end Parts

/-- The images under one map determine those under another one if they do for each item. -/
theorem map_eq_map_of_determined {γ : Type} {f : α → β} {g : α → γ} {left right : List α}
    (determined : ∀ item ∈ left, ∀ other ∈ right, f item = f other → g item = g other)
    (same : left.map f = right.map f) : left.map g = right.map g := by
  induction left generalizing right with
  | nil => rw [List.map_eq_nil_iff.mp same.symm]
  | cons item rest inductionHypothesis =>
      cases right with
      | nil => cases same
      | cons other others =>
          rw [List.map_cons, List.map_cons, List.cons.injEq] at same ⊢
          exact ⟨determined item List.mem_cons_self other List.mem_cons_self same.1,
            inductionHypothesis (fun item member other isOther => determined item
              (List.mem_cons_of_mem _ member) other (List.mem_cons_of_mem _ isOther)) same.2⟩

theorem option_map_eq_map_of_determined {γ : Type} {f : α → β} {g : α → γ}
    {left right : Option α}
    (determined : ∀ item ∈ left, ∀ other ∈ right, f item = f other → g item = g other)
    (same : left.map f = right.map f) : left.map g = right.map g := by
  cases left with
  | none => rw [Option.map_eq_none_iff.mp same.symm]
  | some item =>
      cases right with
      | none => cases same
      | some other =>
          exact congrArg some (determined item rfl other rfl (Option.some.inj same))

end Sbom
