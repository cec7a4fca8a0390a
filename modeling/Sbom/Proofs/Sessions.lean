import Mathlib.Data.List.Dedup
import Mathlib.Data.List.Induction
import Sbom.Proofs.Growth
import Sbom.Proofs.KeyedRegistry

/-!
# Registries under any use

A conversion uses its registry in one way only. Here the operations come in any order and number: a
root may be set twice, be taken out and be registered again, and lookups may fail. A `Session` keeps
beside the registry what was asked of it and what it answered.

What the registry holds is then told by the session alone. Its references are those of the accepted
components, each where it was accepted last, without those taken out since; its records are these
components, perhaps with further children; and it harvests those of them whose reference was never
placed and never made the root (`session_invariants`).
-/

namespace Sbom.Conversion.Registry

open CycloneDx (Component)

/-- An operation and what it answered. -/
structure Event where
  /-- What was asked. -/
  operation : Operation
  /-- What was answered. -/
  answer : Answer

/-- The component that an event registered. -/
def Event.accepted? : Event → Option Component
  | ⟨.register component, .registered true⟩ => some component
  | _ => none

/-- The reference that an event places or makes the root, if it asks for that. -/
def Event.claimed? : Event → Option String
  | ⟨.place id _, _⟩ => some id
  | ⟨.setRoot id, _⟩ => some id
  | _ => none

/-- A registry and the events that led to it. -/
structure Session where
  /-- The registry now. -/
  registry : Registry := {}
  /-- The events so far, in order. -/
  events : List Event := []

namespace Session

/-- The session after one more operation. -/
def perform (session : Session) (operation : Operation) : Session where
  registry := (session.registry.perform operation).1
  events := session.events ++ [⟨operation, (session.registry.perform operation).2⟩]

/-- The session of some operations, from the empty registry. -/
def ofOperations (operations : List Operation) : Session :=
  operations.foldl perform {}

/-- The components that were registered, in order. A reference that was taken out may come again. -/
def accepted (session : Session) : List Component :=
  session.events.filterMap Event.accepted?

/-- The references that operations placed or made the root, or tried to. -/
def claimed (session : Session) : List String :=
  session.events.filterMap Event.claimed?

end Session

/-- The last one of several components that has a reference. -/
def lastUnder? (id : String) (components : List Component) : Option Component :=
  components.reverse.find? fun component => component.ref == id

/-- How the placement of a reference may differ from an earlier one. -/
inductive Advances : Option Placement → Option Placement → Prop where
  /-- It is the same. -/
  | same {placement : Option Placement} : Advances placement placement
  /-- There was none. -/
  | first {placement : Placement} : Advances none (some placement)
  /-- A dependency target became the root. -/
  | rooted : Advances (some .dependencyTarget) (some .root)
  /-- A dependency target was nested. -/
  | nested : Advances (some .dependencyTarget) (some .nested)

theorem Advances.trans {first second third : Option Placement} (earlier : Advances first second)
    (later : Advances second third) : Advances first third := by
  cases earlier with
  | same => exact later
  | first => cases later <;> exact .first
  | rooted => cases later; exact .rooted
  | nested => cases later; exact .nested

variable {registry : Registry} {component record : Component} {id other : String}
  {operation : Operation}

/-- A component is registered, behind the others, exactly if its reference is free. -/
theorem register_cases (registry : Registry) (component : Component) :
    (component.ref ∈ registry.records.map Component.ref ∧
      registry.register component = (registry, false)) ∨
    (component.ref ∉ registry.records.map Component.ref ∧
      registry.register component =
        ({ registry with records := registry.records ++ [component] }, true)) := by
  rw [← contains_iff, register]
  by_cases taken : registry.contains component.ref = true
  · exact .inl ⟨taken, if_pos taken⟩
  · exact .inr ⟨taken, if_neg taken⟩

/-- A copy is attached if both references are registered. Otherwise the first of them that is not
is the failure, and nothing changes. -/
theorem attach_cases (registry : Registry) (container target : String) :
    (∃ child, registry.record? target = some child ∧
      container ∈ registry.records.map Component.ref ∧
      registry.attach container target = (registry.addChild container child, .ok ())) ∨
    ∃ missing, missing ∉ registry.records.map Component.ref ∧
      (missing = target ∨ target ∈ registry.records.map Component.ref ∧ missing = container) ∧
      registry.attach container target =
        (registry, .error (.lookup "component registry" missing)) := by
  simp only [← contains_iff, contains_eq_isSome]
  cases found : registry.record? target with
  | none =>
      exact .inr ⟨target, by simp [found], .inl rfl,
        by simp [attach, Registry.component, found]⟩
  | some child =>
      cases known : registry.record? container with
      | none =>
          exact .inr ⟨container, by simp [known], .inr ⟨rfl, rfl⟩,
            by simp [attach, Registry.component, found, known]⟩
      | some _ => exact .inl ⟨child, rfl, rfl, by simp [attach, Registry.component, found, known]⟩

/-- Taking the root out removes its record and keeps the order of the others. -/
theorem takeRoot_records (registry : Registry) :
    registry.takeRoot.1.records =
      registry.records.filter fun component => registry.rootId ≠ some component.ref := by
  unfold takeRoot
  split
  case h_1 unset => simp [unset]
  case h_2 id isRoot =>
    apply List.filter_congr
    intro component _
    rw [Bool.eq_iff_iff, bne_iff_ne, decide_eq_true_eq, isRoot, Option.some_inj.ne, ne_comm]

theorem takeRoot_placements (registry : Registry) :
    registry.takeRoot.1.placements = registry.placements := by
  unfold takeRoot
  split <;> rfl

/-- What an operation does to the records: they grow, or the component that was accepted comes behind
them, or those with one reference leave. -/
inductive ChangesRecords (records : List Component) : Option Component → List Component → Prop where
  /-- No record comes or leaves. -/
  | grown {after : List Component} (grow : AllGrowInto records after) :
      ChangesRecords records none after
  /-- A component is registered. -/
  | added {component : Component} (free : component.ref ∉ records.map Component.ref) :
      ChangesRecords records (some component) (records ++ [component])
  /-- A component is taken out. -/
  | removed (id : Option String) :
      ChangesRecords records none (records.filter fun record => id ≠ some record.ref)

/-- What every operation does to the records. -/
theorem perform_changesRecords (registry : Registry) (operation : Operation) :
    ChangesRecords registry.records
      (Event.accepted? ⟨operation, (registry.perform operation).2⟩)
      (registry.perform operation).1.records := by
  cases operation with
  | register component =>
      obtain ⟨_, refused⟩ | ⟨free, accepted⟩ := registry.register_cases component
      · simp only [perform, refused, Event.accepted?]
        exact .grown (.refl _)
      · simp only [perform, accepted, Event.accepted?]
        exact .added free
  | place id placement =>
      simp only [perform, place_records, Event.accepted?]
      exact .grown (.refl _)
  | setRoot id =>
      simp only [perform, setRoot, place_records, Event.accepted?]
      exact .grown (.refl _)
  | takeRoot =>
      simp only [perform, takeRoot_records, Event.accepted?]
      exact .removed _
  | attach container target =>
      obtain ⟨child, _, _, attached⟩ | ⟨missing, _, _, failed⟩ :=
        registry.attach_cases container target
      · simp only [perform, attached, Event.accepted?]
        exact .grown (.addChild registry container child)
      · simp only [perform, failed, Event.accepted?]
        exact .grown (.refl _)

/-- What every operation does to the placements: it tries to place the reference that it claims, and
leaves them alone if it claims none. -/
theorem perform_changesPlacements (registry : Registry) (operation : Operation) :
    (Event.claimed? ⟨operation, (registry.perform operation).2⟩ = none ∧
      (registry.perform operation).1.placements = registry.placements) ∨
    ∃ target placement,
      Event.claimed? ⟨operation, (registry.perform operation).2⟩ = some target ∧
      (registry.perform operation).1.placements =
        (registry.place target placement).1.placements := by
  cases operation with
  | register component =>
      obtain ⟨_, refused⟩ | ⟨_, accepted⟩ := registry.register_cases component
      · exact .inl ⟨rfl, by rw [perform, refused]⟩
      · exact .inl ⟨rfl, by rw [perform, accepted]⟩
  | place id placement => exact .inr ⟨id, placement, rfl, rfl⟩
  | setRoot id => exact .inr ⟨id, .root, rfl, rfl⟩
  | takeRoot => exact .inl ⟨rfl, registry.takeRoot_placements⟩
  | attach container target =>
      obtain ⟨_, _, _, attached⟩ | ⟨_, _, _, failed⟩ := registry.attach_cases container target
      · exact .inl ⟨rfl, by rw [perform, attached]; rfl⟩
      · exact .inl ⟨rfl, by rw [perform, failed]⟩

/-- A placement may take the place of an earlier one if it differs and is an advance. -/
theorem mayReplace_iff {earlier : Option Placement} {placement : Placement} :
    mayReplace earlier placement = true ↔
      earlier ≠ some placement ∧ Advances earlier (some placement) := by
  constructor
  · intro allowed
    cases earlier with
    | none => exact ⟨nofun, .first⟩
    | some old =>
        cases old with
        | root => cases allowed
        | nested => cases allowed
        | dependencyTarget =>
            cases placement with
            | root => exact ⟨nofun, .rooted⟩
            | nested => exact ⟨nofun, .nested⟩
            | dependencyTarget => cases allowed
  · rintro ⟨differs, advances⟩
    cases advances with
    | same => exact absurd rfl differs
    | first => rfl
    | rooted => rfl
    | nested => rfl

/-- Placing a reference lets placements advance. -/
theorem place_advances (registry : Registry) (id : String) (placement : Placement)
    (other : String) :
    Advances (registry.placement? other) ((registry.place id placement).1.placement? other) := by
  rw [placement?_place]
  split
  case isTrue placed =>
    obtain ⟨rfl, allowed⟩ := placed
    exact (mayReplace_iff.mp allowed).2
  case isFalse => exact .same

/-- Placing says whether the placement is another one afterwards. -/
theorem place_accepts_iff {placement : Placement} :
    (registry.place id placement).2 = true ↔
      (registry.place id placement).1.placement? id ≠ registry.placement? id := by
  have answers :
      (registry.place id placement).2 = mayReplace (registry.placement? id) placement := by
    unfold place
    split <;> simp_all
  rw [answers, placement?_place]
  by_cases allowed : mayReplace (registry.placement? id) placement = true
  · simpa [allowed] using (mayReplace_iff.mp allowed).1.symm
  · simp [allowed]

/-- Only a reference that is placed stops being without a placement. -/
theorem place_eq_none_iff (registry : Registry) (id : String) (placement : Placement)
    (other : String) :
    (registry.place id placement).1.placement? other = none ↔
      registry.placement? other = none ∧ other ≠ id := by
  rw [placement?_place]
  by_cases same : other = id
  · subst same
    cases earlier : registry.placement? other with
    | none => simp [mayReplace]
    | some old => simp [ite_eq_iff]
  · simp [same]

/-- Placements advance with every operation. -/
theorem perform_advances (registry : Registry) (operation : Operation) (id : String) :
    Advances (registry.placement? id) ((registry.perform operation).1.placement? id) := by
  obtain ⟨_, same⟩ | ⟨target, placement, _, placed⟩ := registry.perform_changesPlacements operation
  · rw [placement?, placement?, same]
    exact .same
  · have advances := registry.place_advances target placement id
    rw [placement?, placement?, ← placed, ← placement?] at advances
    exact advances

/-- A reference is without a placement after an operation if it was so before and the operation does
not claim it. -/
theorem perform_eq_none_iff (registry : Registry) (operation : Operation) (id : String) :
    (registry.perform operation).1.placement? id = none ↔
      registry.placement? id = none ∧
        some id ≠ Event.claimed? ⟨operation, (registry.perform operation).2⟩ := by
  obtain ⟨unclaimed, same⟩ | ⟨target, placement, claims, placed⟩ :=
    registry.perform_changesPlacements operation
  · rw [placement?, placement?, same, unclaimed]
    simp
  · have unplaced := registry.place_eq_none_iff target placement id
    rw [placement?, ← placed, ← placement?] at unplaced
    rw [unplaced, claims, ne_eq, ne_eq, Option.some.injEq]

/-- Among references in the order in which they came last, one that comes anew is the last one. -/
theorem filter_dedup_concat {ids present : List String} (free : id ∉ present) :
    ((ids ++ [id]).dedup.filter fun other => other ∈ present ++ [id]) =
      (ids.dedup.filter fun other => other ∈ present) ++ [id] := by
  induction ids with
  | nil => simp
  | cons first rest inductionHypothesis =>
      rw [List.cons_append]
      by_cases again : first ∈ rest
      · rw [List.dedup_cons_of_mem (List.mem_append_left _ again), List.dedup_cons_of_mem again,
          inductionHypothesis]
      · by_cases same : first = id
        · subst same
          rw [List.dedup_cons_of_mem (by simp), List.dedup_cons_of_notMem again,
            inductionHypothesis, List.filter_cons_of_neg (by simpa using free)]
        · rw [List.dedup_cons_of_notMem (by simp [again, same]), List.dedup_cons_of_notMem again,
            List.filter_cons, List.filter_cons, inductionHypothesis]
          simp only [List.mem_append, List.mem_singleton, same, or_false]
          split <;> rfl

namespace ChangesRecords

variable {records after accepted : List Component} {accepted? : Option Component}

/-- If the references of the records are accepted ones in the order in which they were accepted last,
they are so after an operation. -/
theorem inOrder (changes : ChangesRecords records accepted? after)
    (ordered : records.map Component.ref =
      (accepted.map Component.ref).dedup.filter fun id => id ∈ records.map Component.ref) :
    after.map Component.ref =
      ((accepted ++ accepted?.toList).map Component.ref).dedup.filter fun id =>
        id ∈ after.map Component.ref := by
  cases changes with
  | grown grow =>
      rw [Option.toList_none, List.append_nil, grow.refs]
      exact ordered
  | @added component free =>
      simp only [Option.toList_some, List.map_append, List.map_singleton]
      rw [filter_dedup_concat free, ← ordered]
  | removed id =>
      have kept : (records.filter fun record => id ≠ some record.ref).map Component.ref =
          (records.map Component.ref).filter fun ref => id ≠ some ref := by
        rw [List.filter_map]
        rfl
      rw [Option.toList_none, List.append_nil, kept]
      conv_lhs => rw [ordered, List.filter_filter]
      apply List.filter_congr
      intro ref _
      simp [List.mem_filter, and_comm]

/-- If the records grew from the components that were accepted last, they do so after an
operation. -/
theorem grown_from (changes : ChangesRecords records accepted? after)
    (grown : ∀ record ∈ records, ∃ component,
      lastUnder? record.ref accepted = some component ∧ GrowsInto component record) :
    ∀ record ∈ after, ∃ component,
      lastUnder? record.ref (accepted ++ accepted?.toList) = some component ∧
        GrowsInto component record := by
  intro record member
  cases changes with
  | grown grow =>
      obtain ⟨earlier, isEarlier, grows⟩ := grow.exists_before member
      obtain ⟨component, last, growsFirst⟩ := grown earlier isEarlier
      rw [Option.toList_none, List.append_nil, grows.ref]
      exact ⟨component, last, growsFirst.trans grows⟩
  | @added component free =>
      rcases List.mem_append.mp member with isEarlier | isLast
      · have differs : component.ref ≠ record.ref := fun same =>
          free (same ▸ List.mem_map_of_mem isEarlier)
        obtain ⟨first, last, grows⟩ := grown record isEarlier
        refine ⟨first, ?_, grows⟩
        simpa [lastUnder?, differs] using last
      · rw [List.mem_singleton.mp isLast]
        exact ⟨component, by simp [lastUnder?], .refl component⟩
  | removed id =>
      rw [Option.toList_none, List.append_nil]
      exact grown record (List.mem_of_mem_filter member)

end ChangesRecords

/-- What a session says of its registry: the references in the order in which they were accepted
last, the accepted components that the records grew from, and the references without a placement. -/
structure Session.Tells (session : Session) : Prop where
  inOrder : session.registry.records.map Component.ref =
    (session.accepted.map Component.ref).dedup.filter fun id =>
      id ∈ session.registry.records.map Component.ref
  grown : ∀ record ∈ session.registry.records, ∃ component,
    lastUnder? record.ref session.accepted = some component ∧ GrowsInto component record
  unplaced : ∀ id, session.registry.placement? id = none ↔ id ∉ session.claimed

namespace Session

variable {session : Session}

theorem accepted_perform (session : Session) (operation : Operation) :
    (session.perform operation).accepted = session.accepted ++
      (Event.accepted? ⟨operation, (session.registry.perform operation).2⟩).toList := by
  rw [accepted, perform, List.filterMap_append, List.filterMap_cons]
  cases Event.accepted? ⟨operation, (session.registry.perform operation).2⟩ <;> rfl

theorem claimed_perform (session : Session) (operation : Operation) :
    (session.perform operation).claimed = session.claimed ++
      (Event.claimed? ⟨operation, (session.registry.perform operation).2⟩).toList := by
  rw [claimed, perform, List.filterMap_append, List.filterMap_cons]
  cases Event.claimed? ⟨operation, (session.registry.perform operation).2⟩ <;> rfl

/-- Nothing is registered and nothing placed at the start. -/
theorem Tells.empty : ({} : Session).Tells :=
  ⟨rfl, fun record member => absurd member List.not_mem_nil,
    fun id => by simp [claimed, placement?]⟩

/-- Every operation keeps what the session says of its registry. -/
theorem Tells.perform (tells : session.Tells) (operation : Operation) :
    (session.perform operation).Tells where
  inOrder := by
    rw [accepted_perform]
    exact (perform_changesRecords _ operation).inOrder tells.inOrder
  grown := by
    rw [accepted_perform]
    exact (perform_changesRecords _ operation).grown_from tells.grown
  unplaced := by
    intro id
    rw [claimed_perform, List.mem_append, Option.mem_toList, not_or, ← tells.unplaced]
    exact (perform_eq_none_iff _ operation id).trans (by simp [eq_comm])

theorem ofOperations_concat (operations : List Operation) (operation : Operation) :
    ofOperations (operations ++ [operation]) = (ofOperations operations).perform operation :=
  List.foldl_concat ..

/-- Every session says what its registry holds. -/
theorem tells_ofOperations (operations : List Operation) : (ofOperations operations).Tells := by
  induction operations using List.reverseRecOn with
  | nil => exact .empty
  | append_singleton operations operation inductionHypothesis =>
      rw [ofOperations_concat]
      exact inductionHypothesis.perform operation

/-- A keyed registry goes along with every session. -/
theorem keyed_ofOperations (operations : List Operation) :
    KeyedRegistry.ofOperations operations = (ofOperations operations).registry.keyed := by
  induction operations using List.reverseRecOn with
  | nil => rfl
  | append_singleton operations operation inductionHypothesis =>
      rw [ofOperations_concat, KeyedRegistry.ofOperations, List.foldl_concat,
        ← KeyedRegistry.ofOperations, inductionHypothesis, perform_keyed]
      rfl

/-- Placements advance as a session goes on. -/
theorem placement?_advances (operations later : List Operation) (id : String) :
    Advances ((ofOperations operations).registry.placement? id)
      ((ofOperations (operations ++ later)).registry.placement? id) := by
  induction later using List.reverseRecOn with
  | nil =>
      rw [List.append_nil]
      exact .same
  | append_singleton later operation inductionHypothesis =>
      rw [← List.append_assoc, ofOperations_concat]
      exact inductionHypothesis.trans (perform_advances _ operation id)

end Session

/-- Whatever operations were performed. A registry that stores records under keys holds the same
records, each under its own reference, and answers alike. The registered references are distinct and
stand in the order in which they were accepted last; taking the root out keeps that order. What is
found under a reference is the component that was accepted last under it, perhaps with further
children. From there on placements only advance, and placing answers whether it changed the
placement, which is that of the placed reference alone. A component whose reference is taken is
refused and changes nothing, and neither does an attachment for which a lookup fails. The harvest is
the records without a placement in their order, which are those whose reference no operation placed
or made the root, also where it was registered again after that. -/
theorem session_invariants (operations : List Operation) :
    let session := Session.ofOperations operations
    let store := KeyedRegistry.ofOperations operations
    (store.entries.map Prod.snd = session.registry.records ∧
      (∀ entry ∈ store.entries, entry.2.ref = entry.1) ∧
      (∀ operation, (store.perform operation).2 = (session.registry.perform operation).2) ∧
      store.harvest = session.registry.harvest) ∧
    ((session.registry.records.map Component.ref).Nodup ∧
      session.registry.records.map Component.ref =
        ((session.accepted.map Component.ref).dedup.filter fun id =>
          id ∈ session.registry.records.map Component.ref) ∧
      session.registry.takeRoot.1.records = (session.registry.records.filter fun record =>
        session.registry.rootId ≠ some record.ref) ∧
      ∀ id record, session.registry.record? id = some record → record.ref = id ∧
        ∃ component, lastUnder? id session.accepted = some component ∧
          GrowsInto component record) ∧
    ((∀ later id, Advances (session.registry.placement? id)
        ((Session.ofOperations (operations ++ later)).registry.placement? id)) ∧
      ∀ id placement,
        ((session.registry.place id placement).2 = true ↔
          (session.registry.place id placement).1.placement? id ≠
            session.registry.placement? id) ∧
        ∀ other ≠ id, (session.registry.place id placement).1.placement? other =
          session.registry.placement? other) ∧
    ((∀ component,
        ((session.registry.register component).2 = true ↔
          component.ref ∉ session.registry.records.map Component.ref) ∧
        ((session.registry.register component).2 = false →
          (session.registry.register component).1 = session.registry)) ∧
      ∀ container target failure,
        (session.registry.attach container target).2 = .error failure →
          (session.registry.attach container target).1 = session.registry ∧
            ∃ missing ∈ [target, container],
              missing ∉ session.registry.records.map Component.ref ∧
              failure = .lookup "component registry" missing) ∧
    session.registry.harvest = (session.registry.records.filter fun record =>
      session.registry.placement? record.ref = none) ∧
    session.registry.harvest = session.registry.records.filter fun record =>
      record.ref ∉ session.claimed := by
  intro session store
  have tells : session.Tells := Session.tells_ofOperations operations
  have isKeyed : store = session.registry.keyed := Session.keyed_ofOperations operations
  have unplaced : session.registry.harvest = session.registry.records.filter fun record =>
      session.registry.placement? record.ref = none := by
    apply List.filter_congr
    intro record _
    cases placed : session.registry.placement? record.ref <;> simp [isPlaced, placed]
  refine ⟨?_, ⟨?_, tells.inOrder, takeRoot_records _, fun id record found => ?_⟩,
    ⟨fun later id => Session.placement?_advances operations later id,
      fun id placement => ⟨place_accepts_iff, fun other differs => ?_⟩⟩,
    ⟨fun component => ?_, fun container target failure fails => ?_⟩, unplaced, ?_⟩
  · rw [isKeyed]
    refine ⟨?_, fun entry member => ?_, fun operation => ?_, harvest_keyed _⟩
    · rw [keyed, List.map_map]
      exact List.map_id _
    · obtain ⟨record, _, rfl⟩ := List.mem_map.mp member
      rfl
    · rw [perform_keyed]
  · rw [tells.inOrder]
    exact (List.nodup_dedup _).filter _
  · have isRef : record.ref = id := by simpa using List.find?_some found
    have grown := tells.grown record (List.mem_of_find?_eq_some found)
    rw [isRef] at grown
    exact ⟨isRef, grown⟩
  · rw [placement?_place, if_neg fun both => differs both.1]
  · obtain ⟨taken, refused⟩ | ⟨free, accepted⟩ := session.registry.register_cases component
    · rw [refused]
      exact ⟨iff_of_false Bool.false_ne_true (not_not.mpr taken), fun _ => rfl⟩
    · rw [accepted]
      exact ⟨iff_of_true rfl free, fun refused => by cases refused⟩
  · obtain ⟨_, _, _, attached⟩ | ⟨missing, unknown, isOne, failed⟩ :=
      session.registry.attach_cases container target
    · rw [attached] at fails
      cases fails
    · rw [failed] at fails ⊢
      cases fails
      exact ⟨rfl, missing, by rcases isOne with rfl | ⟨_, rfl⟩ <;> simp, unknown, rfl⟩
  · rw [unplaced]
    simp only [tells.unplaced]

/-- Operations that register two references, one of them twice, nest the one in the other, which is
the root, take the root out and register it again, and look for a reference that is unknown. -/
def reopeningOperations : List Operation := [
  .register (.bare "app" "first"), .register (.bare "lib" ""), .register (.bare "lib" "second"),
  .setRoot "app", .place "lib" .dependencyTarget, .attach "app" "lib", .place "lib" .nested,
  .takeRoot, .register (.bare "app" "again"), .attach "app" "lib", .register (.bare "tool" ""),
  .attach "app" "ghost"]

theorem session_reopeningOperations :
    let session := Session.ofOperations reopeningOperations
    session.registry.records.map Component.ref = ["lib", "app", "tool"] ∧
    session.registry.harvest.map Component.ref = ["tool"] ∧
    (∃ record, session.registry.record? "app" = some record ∧ record.ref = "app" ∧
      GrowsInto (.bare "app" "again") record) ∧
    (session.registry.place "tool" .root).2 = true ∧
    (session.registry.register (.bare "lib" "third")).1 = session.registry ∧
    (session.registry.attach "app" "ghost").1 = session.registry := by
  intro session
  obtain ⟨_, ⟨_, ordered, _, stored⟩, ⟨_, places⟩, ⟨registers, attaches⟩, _, harvests⟩ :=
    session_invariants reopeningOperations
  obtain ⟨isRef, component, last, grows⟩ := stored "app" _ rfl
  cases last
  refine ⟨ordered.trans rfl, ?_, ⟨_, rfl, isRef, grows⟩, ?_, ?_, ?_⟩
  · rw [harvests]
    rfl
  · exact (places "tool" .root).1.mpr (by decide)
  · exact (registers (.bare "lib" "third")).2 rfl
  · exact (attaches "app" "ghost" _ rfl).1

end Sbom.Conversion.Registry
