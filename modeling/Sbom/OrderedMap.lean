/-!
# Maps in order of insertion

A finite map whose entries keep the order in which their keys were first set. Setting a key again
replaces its value and keeps its place, so no key occurs twice.
-/

namespace Sbom

/-- The entries with the value of a key replaced, or with a new entry at the end. -/
def setEntry {κ ν : Type} [DecidableEq κ] (key : κ) (value : ν) : List (κ × ν) → List (κ × ν)
  | [] => [(key, value)]
  | (other, old) :: rest =>
    if other = key then (key, value) :: rest else (other, old) :: setEntry key value rest

/-- Only the set key can be a new key. -/
theorem mem_keys_setEntry {κ ν : Type} [DecidableEq κ] {key k : κ} {value : ν}
    {entries : List (κ × ν)} (member : k ∈ (setEntry key value entries).map Prod.fst) :
    k = key ∨ k ∈ entries.map Prod.fst := by
  induction entries with
  | nil => simpa [setEntry] using member
  | cons entry rest inductionHypothesis =>
    obtain ⟨other, old⟩ := entry
    by_cases same : other = key
    · simp only [setEntry, same, if_true, List.map_cons, List.mem_cons] at member ⊢
      exact member.elim Or.inl fun inRest => Or.inr (Or.inr inRest)
    · simp only [setEntry, same, if_false, List.map_cons, List.mem_cons] at member ⊢
      rcases member with rfl | inRest
      · exact Or.inr (Or.inl rfl)
      · exact (inductionHypothesis inRest).elim Or.inl fun old => Or.inr (Or.inr old)

/-- Setting a key leaves every key unique. -/
theorem nodup_keys_setEntry {κ ν : Type} [DecidableEq κ] (key : κ) (value : ν)
    (entries : List (κ × ν)) (unique : (entries.map Prod.fst).Nodup) :
    ((setEntry key value entries).map Prod.fst).Nodup := by
  induction entries with
  | nil => simp [setEntry]
  | cons entry rest inductionHypothesis =>
    obtain ⟨other, old⟩ := entry
    simp only [List.map_cons, List.nodup_cons] at unique
    by_cases same : other = key
    · simp only [setEntry, same, if_true, List.map_cons, List.nodup_cons]
      exact ⟨same ▸ unique.1, unique.2⟩
    · simp only [setEntry, same, if_false, List.map_cons, List.nodup_cons]
      refine ⟨fun member => ?_, inductionHypothesis unique.2⟩
      exact (mem_keys_setEntry member).elim same unique.1

/-- A map whose entries keep their order. -/
structure OrderedMap (κ ν : Type) where
  /-- The entries, in order. -/
  entries : List (κ × ν)
  /-- No key occurs twice. -/
  unique : (entries.map Prod.fst).Nodup

namespace OrderedMap

variable {κ ν : Type}

/-- The map without entries. -/
def empty : OrderedMap κ ν := ⟨[], List.nodup_nil⟩

instance : Inhabited (OrderedMap κ ν) := ⟨empty⟩

/-- Sets the value of a key. -/
def insert [DecidableEq κ] (map : OrderedMap κ ν) (key : κ) (value : ν) : OrderedMap κ ν :=
  ⟨setEntry key value map.entries, nodup_keys_setEntry key value map.entries map.unique⟩

/-- The value of a key. -/
def get? [DecidableEq κ] (map : OrderedMap κ ν) (key : κ) : Option ν :=
  (map.entries.find? fun entry => entry.1 = key).map Prod.snd

/-- Maps are equal when their entries are. -/
@[ext] theorem ext {left right : OrderedMap κ ν} (same : left.entries = right.entries) :
    left = right := by
  cases left; cases right; simp_all

end OrderedMap

end Sbom
