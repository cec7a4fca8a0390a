import Sbom.Conversion.Registry

/-!
# Operations on a registry

What each operation leaves of a registry, seen through its two views: the list of records and the
placement of a reference. A placement concerns one reference only, and whether it is made depends
only on the placement that the reference has.
-/

namespace Sbom.Conversion.Registry

open CycloneDx (Component)

variable {registry : Registry} {id other : String} {placement : Placement}

/-- Setting a placement is seen at its own reference only. -/
theorem find?_setPlacement (placements : List (String × Placement)) :
    ((setPlacement id placement placements).find? fun entry => entry.1 == other).map Prod.snd =
      if other = id then some placement
      else (placements.find? fun entry => entry.1 == other).map Prod.snd := by
  induction placements with
  | nil =>
      by_cases same : other = id
      · simp [setPlacement, same]
      · simp [setPlacement, same, Ne.symm same]
  | cons entry rest inductionHypothesis =>
      obtain ⟨key, old⟩ := entry
      rw [setPlacement]
      by_cases atKey : key = id
      · subst atKey
        by_cases same : other = key
        · simp [same]
        · simp [same, Ne.symm same]
      · rw [if_neg atKey]
        by_cases found : key = other
        · subst found
          simp [atKey]
        · have skipped : (key == other) = false := by simpa using found
          rw [List.find?_cons, List.find?_cons]
          simp only [skipped]
          exact inductionHypothesis

@[simp] theorem place_records : (registry.place id placement).1.records = registry.records := by
  unfold place
  split <;> rfl

/-- Placing a reference leaves every record. -/
@[simp] theorem record?_place :
    (registry.place id placement).1.record? other = registry.record? other := by
  rw [record?, place_records, record?]

@[simp] theorem place_rootId : (registry.place id placement).1.rootId = registry.rootId := by
  unfold place
  split <;> rfl

/-- A placement is made exactly when it may take the place of the one before. -/
theorem placement?_place :
    (registry.place id placement).1.placement? other =
      if other = id ∧ mayReplace (registry.placement? id) placement then some placement
      else registry.placement? other := by
  unfold place
  by_cases allowed : mayReplace (registry.placement? id) placement = true
  · simp only [allowed, if_true, and_true]
    exact find?_setPlacement registry.placements
  · simp [allowed]

@[simp] theorem addChild_rootId {child : Component} :
    (registry.addChild id child).rootId = registry.rootId := rfl

@[simp] theorem addChild_placement? {child : Component} :
    (registry.addChild id child).placement? other = registry.placement? other := rfl

/-- Adding a child keeps the registered references and their order. -/
theorem addChild_refs {child : Component} :
    (registry.addChild id child).records.map Component.ref =
      registry.records.map Component.ref := by
  rw [addChild, List.map_map]
  apply List.map_congr_left
  intro component _
  rw [Function.comp_apply]
  split <;> rfl

/-- Adding a child changes the record of its container only. -/
theorem record?_addChild {child : Component} :
    (registry.addChild id child).record? other =
      if other = id then (registry.record? id).map fun component => component.addChild child
      else registry.record? other := by
  have sameTest : ((fun component : Component => component.ref == other) ∘
      fun component : Component =>
        if component.ref = id then component.addChild child else component) =
      fun component : Component => component.ref == other := by
    funext component
    rw [Function.comp_apply]
    split <;> rfl
  have mapped : (registry.addChild id child).record? other = (registry.record? other).map
      fun component => if component.ref = id then component.addChild child else component := by
    rw [record?, addChild, List.find?_map, sameTest, record?]
  rw [mapped]
  cases found : registry.record? other with
  | none =>
      by_cases same : other = id
      · rw [if_pos same, ← same, found]
        rfl
      · rw [if_neg same]
        rfl
  | some component =>
      have isRef : component.ref = other := by simpa using List.find?_some found
      by_cases same : other = id
      · subst same
        simp [found, isRef]
      · simp [isRef, same]

/-- A reference is registered if one of the records has it. -/
theorem contains_iff : registry.contains id = true ↔ id ∈ registry.records.map Component.ref := by
  simp [contains]

/-- A reference is registered exactly if it has a record. -/
theorem contains_eq_isSome (registry : Registry) (id : String) :
    registry.contains id = (registry.record? id).isSome := by
  rw [Bool.eq_iff_iff, contains, record?, List.find?_isSome, List.any_eq_true]

/-- A placed root is not harvested, so taking it out of the registry first makes no difference. -/
theorem takeRoot_harvest (placed : ∀ id, registry.rootId = some id → registry.isPlaced id = true) :
    registry.takeRoot.1.harvest = registry.harvest := by
  unfold takeRoot
  split
  case h_1 => rfl
  case h_2 id isRoot =>
    rw [harvest, harvest, List.filter_filter]
    apply List.filter_congr
    intro component _
    show (!registry.isPlaced component.ref && component.ref != id) =
      !registry.isPlaced component.ref
    by_cases same : component.ref = id
    · simp [same, placed id isRoot]
    · simp [same]

section Indexed

variable {ids : List String} {record : String → Component}

/-- A registry whose records are given by their references has the record of each of them. -/
theorem record?_of_records (records : registry.records = ids.map record)
    (named : ∀ id ∈ ids, (record id).ref = id) (member : id ∈ ids) :
    registry.record? id = some (record id) := by
  have present : (registry.records.find? fun component => component.ref == id).isSome := by
    rw [List.find?_isSome, records]
    exact ⟨record id, List.mem_map_of_mem member, by simp [named id member]⟩
  obtain ⟨found, foundEq⟩ := Option.isSome_iff_exists.mp present
  have isRecord := List.mem_of_find?_eq_some foundEq
  rw [records] at isRecord
  obtain ⟨candidate, candidateMember, rfl⟩ := List.mem_map.mp isRecord
  have sameRef : (record candidate).ref = id := by simpa using List.find?_some foundEq
  rw [named candidate candidateMember] at sameRef
  rw [record?, foundEq, sameRef]

/-- Exactly the given references are registered there. -/
theorem contains_iff_of_records (records : registry.records = ids.map record)
    (named : ∀ id ∈ ids, (record id).ref = id) : registry.contains id = true ↔ id ∈ ids := by
  rw [contains_iff, records, List.map_map]
  have same : ids.map (Component.ref ∘ record) = ids :=
    (List.map_congr_left named).trans (List.map_id' ids)
  rw [same]

end Indexed

end Sbom.Conversion.Registry
