import Mathlib.Data.List.Induction
import Sbom.Failure

/-!
# Contexts of failures

A failure passes through its callers from the inside out, and each of them may put its context in
front of what is there. A context in front of an empty one takes its place; in front of any other
one it is set off by a colon, also if it is empty itself. So of all contexts the empty ones at the
innermost end are dropped, and no others. Nothing else about a failure changes on its way.
-/

namespace Sbom

/-- A context that a caller adds. -/
inductive Context where
  /-- A text that is there in any case. -/
  | given (text : String)
  /-- A text that is worked out for a failure only. -/
  | computed (text : Unit → String)

namespace Context

/-- The text of a context. -/
def text : Context → String
  | given text => text
  | computed text => text ()

/-- A result with a context added to it. -/
def addTo {α : Type} (context : Context) (result : Except Failure α) : Except Failure α :=
  match context with
  | given text => inContext text result
  | computed text => inContextOf text result

@[simp] theorem addTo_ok {α : Type} (context : Context) (value : α) :
    context.addTo (.ok value) = .ok value := by
  cases context <;> rfl

@[simp] theorem addTo_error {α : Type} (context : Context) (failure : Failure) :
    context.addTo (.error failure : Except Failure α) = .error (failure.within context.text) := by
  cases context <;> rfl

end Context

/-- A result with several contexts added to it, one after the other. -/
def inContexts {α : Type} (contexts : List Context) (result : Except Failure α) :
    Except Failure α :=
  contexts.foldl (fun result context => context.addTo result) result

namespace Failure

/-- The context of a failure. A conversion that lost information has none. -/
def context? : Failure → Option String
  | lookup context _ => some context
  | unsupportedValue context _ => some context
  | encoding context _ => some context
  | interrupted context => some context
  | configuration message => some message
  | degraded _ _ => none

/-- Whether two failures are of one kind and blame the same, whatever their contexts. -/
inductive SameCause : Failure → Failure → Prop where
  /-- The same node is missing. -/
  | lookup (context other id : String) : SameCause (lookup context id) (lookup other id)
  /-- The same value has no counterpart. -/
  | unsupportedValue (context other value : String) :
      SameCause (unsupportedValue context value) (unsupportedValue other value)
  /-- Encoding failed for the same cause. -/
  | encoding (context other : String) (cause : EncodingCause) :
      SameCause (encoding context cause) (encoding other cause)
  /-- Both are interruptions. -/
  | interrupted (context other : String) : SameCause (interrupted context) (interrupted other)
  /-- Both are about the configuration. -/
  | configuration (message other : String) : SameCause (configuration message) (configuration other)
  /-- The same information was lost. -/
  | degraded (count : Nat) (first : String) :
      SameCause (degraded count first) (degraded count first)

namespace SameCause

theorem refl (failure : Failure) : SameCause failure failure := by
  cases failure <;> constructor

theorem trans {failure middle final : Failure} (first : SameCause failure middle)
    (second : SameCause middle final) : SameCause failure final := by
  cases first <;> cases second <;> constructor

end SameCause

/-- A context added to a failure leaves its cause as it is. -/
theorem within_sameCause (failure : Failure) (outer : String) :
    SameCause failure (failure.within outer) := by
  cases failure <;> constructor

/-- A context added to a failure goes in front of the context it has. -/
theorem context?_within (failure : Failure) (outer : String) :
    (failure.within outer).context? = failure.context?.map (chain outer) := by
  cases failure <;> rfl

/-- What several contexts, the innermost first, make together: the empty ones at the innermost end
are dropped, and the others are joined from the outermost to the innermost. -/
def joined (contexts : List String) : String :=
  ": ".intercalate (contexts.dropWhile String.isEmpty).reverse

theorem joined_singleton (own : String) : joined [own] = own := by
  by_cases isEmpty : own = ""
  · simp [joined, isEmpty]
  · simp [joined, isEmpty]

/-- Joined contexts are empty only if all of them are dropped. -/
theorem isEmpty_joined (contexts : List String) :
    (joined contexts).isEmpty = (contexts.dropWhile String.isEmpty).isEmpty := by
  rw [joined]
  cases kept : contexts.dropWhile String.isEmpty with
  | nil => simp
  | cons innermost further =>
      have isKept : innermost.isEmpty = false := by
        have notDropped := List.head?_dropWhile_not String.isEmpty contexts
        simpa [kept] using notDropped
      rw [List.reverse_cons]
      cases outer : further.reverse with
      | nil => simpa using isKept
      | cons outermost between =>
          rw [String.intercalate_append_of_ne_nil (List.cons_ne_nil _ _) (List.cons_ne_nil _ _)]
          simp

/-- One more context at the outermost end goes in front of the joined ones. -/
theorem joined_concat (contexts : List String) (outer : String) :
    joined (contexts ++ [outer]) = chain outer (joined contexts) := by
  rw [chain, isEmpty_joined, joined, List.dropWhile_append]
  split
  next allEmpty => exact joined_singleton outer
  next notAll =>
    have someKept : (contexts.dropWhile String.isEmpty).reverse ≠ [] := by
      simpa using notAll
    rw [List.reverse_append, List.reverse_singleton, List.singleton_append,
      String.intercalate_cons_of_ne_nil someKept, joined]

example : joined ["", "edge #2", "", "whole document"] = "whole document: : edge #2" := by decide

end Failure

open Failure (SameCause joined)

variable {α : Type}

/-- Contexts leave a value as it is. -/
theorem inContexts_ok (contexts : List Context) (value : α) :
    inContexts contexts (.ok value) = .ok value := by
  induction contexts with
  | nil => rfl
  | cons context rest inductionHypothesis =>
      rw [inContexts, List.foldl_cons, Context.addTo_ok]
      exact inductionHypothesis

/-- The last context is added to what the ones before it make of a result. -/
theorem inContexts_concat (contexts : List Context) (context : Context)
    (result : Except Failure α) :
    inContexts (contexts ++ [context]) result = context.addTo (inContexts contexts result) := by
  rw [inContexts, List.foldl_append, List.foldl_cons, List.foldl_nil]
  rfl

/-- A failure that contexts are added to keeps its cause, and its context is joined with them. -/
theorem inContexts_error (contexts : List Context) (failure : Failure) :
    ∃ final, inContexts contexts (.error failure : Except Failure α) = .error final ∧
      SameCause failure final ∧
      final.context? = failure.context?.map fun own =>
        joined (own :: contexts.map Context.text) := by
  -- The contexts are taken from the outermost one, which stands in front of all others.
  induction contexts using List.reverseRecOn with
  | nil =>
      refine ⟨failure, rfl, .refl failure, ?_⟩
      simp [Failure.joined_singleton]
  | append_singleton inner outer inductionHypothesis =>
      obtain ⟨middle, reached, sameCause, context⟩ := inductionHypothesis
      refine ⟨middle.within outer.text, ?_, ?_, ?_⟩
      · rw [inContexts_concat, reached, Context.addTo_error]
      · exact sameCause.trans (middle.within_sameCause outer.text)
      · rw [Failure.context?_within, context, Option.map_map, List.map_append, List.map_singleton]
        congr 1
        funext own
        exact (Failure.joined_concat (own :: inner.map Context.text) outer.text).symm

/-- Contexts that are added one after the other leave a value as it is, and of a failure its kind
and what it blames. The context of the failure and those added, from its own one on, are joined in
reverse order without the empty ones at the start. A conversion that lost information has no
context, so it stays as it is. -/
theorem inContexts_joins (contexts : List Context) :
    (∀ value : α, inContexts contexts (.ok value) = .ok value) ∧
    (∀ count first, inContexts contexts (.error (.degraded count first) : Except Failure α) =
      .error (.degraded count first)) ∧
    ∀ failure : Failure, ∃ final,
      inContexts contexts (.error failure : Except Failure α) = .error final ∧
      SameCause failure final ∧
      final.context? = failure.context?.map fun own =>
        joined (own :: contexts.map Context.text) := by
  refine ⟨inContexts_ok contexts, fun count first => ?_, inContexts_error contexts⟩
  -- Only the failure itself has the cause of a conversion that lost information.
  obtain ⟨final, reached, sameCause, -⟩ := @inContexts_error α contexts (.degraded count first)
  cases sameCause
  exact reached

end Sbom
