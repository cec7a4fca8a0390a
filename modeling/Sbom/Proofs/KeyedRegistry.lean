import Sbom.Proofs.Registry

/-!
# Registries with keys

A registry finds a record by the reference in it. `KeyedRegistry` keeps the reference that a component
was registered under beside its record and goes by that alone; as no operation changes the reference
of a record, it answers every operation alike and holds the same records.
-/

namespace Sbom.Conversion

open CycloneDx (Component)

/-- A registry that keeps beside each record the reference it was registered under. -/
structure KeyedRegistry where
  /-- The records and the references they are stored under, in order of registration. -/
  entries : List (String × Component) := []
  /-- The placements and the root, which need no records. -/
  claims : Registry := {}

namespace KeyedRegistry

/-- The record stored under a reference, or a failure that names it. -/
def component (store : KeyedRegistry) (id : String) : Except Failure Component :=
  match store.entries.find? fun entry => entry.1 == id with
  | some entry => .ok entry.2
  | none => .error (.lookup "component registry" id)

/-- Stores a component under its reference, unless something is stored there. -/
def register (store : KeyedRegistry) (component : Component) : KeyedRegistry × Bool :=
  if store.entries.any fun entry => entry.1 == component.ref then (store, false)
  else ({ store with entries := store.entries ++ [(component.ref, component)] }, true)

/-- Attaches a copy of the component under one reference to the component under another one. -/
def attach (store : KeyedRegistry) (container target : String) :
    KeyedRegistry × Except Failure Unit :=
  match store.component target, store.component container with
  | .ok child, .ok _ =>
    ({ store with
      entries := store.entries.map fun entry =>
        if entry.1 = container then (entry.1, entry.2.addChild child) else entry }, .ok ())
  | .ok _, .error failure => (store, .error failure)
  | .error failure, _ => (store, .error failure)

/-- Takes what is stored under the reference of the root out. -/
def takeRoot (store : KeyedRegistry) : KeyedRegistry × Option Component :=
  match store.claims.rootId with
  | none => (store, none)
  | some id =>
    ({ store with entries := store.entries.filter fun entry => entry.1 != id },
      (store.entries.find? fun entry => entry.1 == id).map Prod.snd)

/-- Performs an operation. -/
def perform (store : KeyedRegistry) : Registry.Operation → KeyedRegistry × Registry.Answer
  | .register component =>
    ((store.register component).1, .registered (store.register component).2)
  | .place id placement =>
    ({ store with claims := (store.claims.place id placement).1 },
      .placed (store.claims.place id placement).2)
  | .setRoot id => ({ store with claims := store.claims.setRoot id }, .done)
  | .takeRoot => (store.takeRoot.1, .taken store.takeRoot.2)
  | .attach container target =>
    ((store.attach container target).1, .attached (store.attach container target).2)

/-- The registry that some operations lead to, from the empty one. -/
def ofOperations (operations : List Registry.Operation) : KeyedRegistry :=
  operations.foldl (fun store operation => (store.perform operation).1) {}

/-- The records stored under references without a placement, in order of registration. -/
def harvest (store : KeyedRegistry) : List Component :=
  (store.entries.filter fun entry => !store.claims.isPlaced entry.1).map Prod.snd

end KeyedRegistry

namespace Registry

/-- The registry with the reference of each record beside it. -/
def keyed (registry : Registry) : KeyedRegistry where
  entries := registry.records.map fun record => (record.ref, record)
  claims := { registry with records := [] }

variable (registry : Registry)

theorem find?_keyed (id : String) :
    (registry.keyed.entries.find? fun entry => entry.1 == id) =
      (registry.record? id).map fun record => (record.ref, record) :=
  List.find?_map ..

theorem component_keyed (id : String) : registry.keyed.component id = registry.component id := by
  rw [KeyedRegistry.component, Registry.component, find?_keyed]
  cases registry.record? id <;> rfl

theorem register_keyed (component : Component) :
    registry.keyed.register component =
      ((registry.register component).1.keyed, (registry.register component).2) := by
  have sameTest : (registry.keyed.entries.any fun entry => entry.1 == component.ref) =
      registry.contains component.ref := List.any_map ..
  rw [KeyedRegistry.register, register, sameTest]
  split
  · rfl
  · simp [keyed]

/-- A child that is attached leaves every record with the reference it is stored under. -/
theorem addChild_keyed (id : String) (child : Component) :
    (registry.addChild id child).keyed =
      { registry.keyed with
        entries := registry.keyed.entries.map fun entry =>
          if entry.1 = id then (entry.1, entry.2.addChild child) else entry } := by
  simp only [keyed, addChild, List.map_map, KeyedRegistry.mk.injEq, and_true]
  refine List.map_congr_left fun record _ => ?_
  simp only [Function.comp_apply]
  split <;> rfl

theorem attach_keyed (container target : String) :
    registry.keyed.attach container target =
      ((registry.attach container target).1.keyed, (registry.attach container target).2) := by
  rw [KeyedRegistry.attach, attach, component_keyed, component_keyed]
  cases registry.component target with
  | error failure => rfl
  | ok child =>
      cases registry.component container with
      | error failure => rfl
      | ok _ => rw [addChild_keyed]

theorem takeRoot_keyed :
    registry.keyed.takeRoot = (registry.takeRoot.1.keyed, registry.takeRoot.2) := by
  have sameRoot : registry.keyed.claims.rootId = registry.rootId := rfl
  rw [KeyedRegistry.takeRoot, takeRoot, sameRoot]
  cases isRoot : registry.rootId with
  | none => rfl
  | some id =>
      simp only [find?_keyed, Option.map_map, Function.comp_def, Option.map_id']
      simp only [keyed, List.filter_map, Function.comp_def, isRoot]

/-- Placing a reference has nothing to do with records. -/
theorem place_keyed (id : String) (placement : Placement) :
    registry.keyed.claims.place id placement =
      ((registry.place id placement).1.keyed.claims, (registry.place id placement).2) := by
  have samePlacement : registry.keyed.claims.placement? id = registry.placement? id := rfl
  rw [place, place, samePlacement]
  split <;> rfl

/-- A keyed registry does every operation as the registry without its keys does it. -/
theorem perform_keyed (operation : Operation) :
    registry.keyed.perform operation =
      ((registry.perform operation).1.keyed, (registry.perform operation).2) := by
  cases operation with
  | register component => simp only [KeyedRegistry.perform, perform, register_keyed]
  | place id placement =>
      simp only [KeyedRegistry.perform, perform, place_keyed]
      simp only [keyed, place_records]
  | setRoot id =>
      simp only [KeyedRegistry.perform, perform, setRoot, place_keyed]
      simp only [keyed, place_records]
  | takeRoot => simp only [KeyedRegistry.perform, perform, takeRoot_keyed]
  | attach container target => simp only [KeyedRegistry.perform, perform, attach_keyed]

theorem harvest_keyed : registry.keyed.harvest = registry.harvest := by
  rw [KeyedRegistry.harvest, harvest, keyed, List.filter_map, List.map_map]
  exact List.map_id _

end Registry

end Sbom.Conversion
