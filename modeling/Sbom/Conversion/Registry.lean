import Sbom.CycloneDx.Component
import Sbom.Failure

/-!
# The registry of a conversion

The components of a conversion, in the order of their nodes, and where each of them has been placed
in the output. Every component is registered under its own reference, and the first one with a
reference keeps it. A placement is kept once it is made, except that a component which so far is
only the target of a dependency can still become part of the tree. The operations are also there as
data, so that any sequence of them can be performed.
-/

namespace Sbom.Conversion

open CycloneDx (Component)

/-- How a component takes part in the output. -/
inductive Placement where
  /-- It is the root. -/
  | root
  /-- It was copied into its container. -/
  | nested
  /-- It is only named by a dependency record. -/
  | dependencyTarget
deriving DecidableEq, Repr

/-- Whether a placement puts a component into the tree. -/
def Placement.isMaterialized : Placement → Bool
  | .root | .nested => true
  | .dependencyTarget => false

/-- The components of a conversion and their placements. -/
structure Registry where
  /-- The registered components, in order of registration. -/
  records : List Component := []
  /-- The placements made so far; the entry of an id is unique. -/
  placements : List (String × Placement) := []
  /-- The reference of the root, once it is known. -/
  rootId : Option String := none

namespace Registry

/-- The component registered under a reference. -/
def record? (registry : Registry) (id : String) : Option Component :=
  registry.records.find? fun component => component.ref == id

/-- Whether a component is registered under a reference. -/
def contains (registry : Registry) (id : String) : Bool :=
  registry.records.any fun component => component.ref == id

/-- The component registered under a reference, or a failure that names it. -/
def component (registry : Registry) (id : String) : Except Failure Component :=
  match registry.record? id with
  | some component => .ok component
  | none => .error (.lookup "component registry" id)

/-- Registers a component, unless its reference is taken. The second result says whether it was
registered. -/
def register (registry : Registry) (component : Component) : Registry × Bool :=
  if registry.contains component.ref then (registry, false)
  else ({ registry with records := registry.records ++ [component] }, true)

/-- Adds a child to the component registered under a reference. -/
def addChild (registry : Registry) (id : String) (child : Component) : Registry :=
  { registry with
    records := registry.records.map fun component =>
      if component.ref = id then component.addChild child else component }

/-- The placement of a reference. -/
def placement? (registry : Registry) (id : String) : Option Placement :=
  (registry.placements.find? fun entry => entry.1 == id).map Prod.snd

/-- Whether a reference has a placement. -/
def isPlaced (registry : Registry) (id : String) : Bool :=
  (registry.placement? id).isSome

/-- Whether a reference is part of the tree. -/
def isMaterialized (registry : Registry) (id : String) : Bool :=
  (registry.placement? id).any Placement.isMaterialized

/-- The placements with the one of a reference set. -/
def setPlacement (id : String) (placement : Placement) :
    List (String × Placement) → List (String × Placement)
  | [] => [(id, placement)]
  | (other, old) :: rest =>
    if other = id then (id, placement) :: rest else (other, old) :: setPlacement id placement rest

/-- Whether a placement may take the place of an earlier one. -/
def mayReplace (earlier : Option Placement) (placement : Placement) : Bool :=
  match earlier with
  | none => true
  | some .dependencyTarget => placement.isMaterialized
  | some _ => false

/-- Places a reference, if that is still possible. The second result says whether it was placed. -/
def place (registry : Registry) (id : String) (placement : Placement) : Registry × Bool :=
  if mayReplace (registry.placement? id) placement then
    ({ registry with placements := setPlacement id placement registry.placements }, true)
  else (registry, false)

/-- Makes a reference the root. -/
def setRoot (registry : Registry) (id : String) : Registry :=
  { (registry.place id .root).1 with rootId := some id }

/-- Whether a reference is the root. -/
def isRoot (registry : Registry) (id : String) : Bool :=
  registry.rootId == some id

/-- Takes the component of the root out of the registry. -/
def takeRoot (registry : Registry) : Registry × Option Component :=
  match registry.rootId with
  | none => (registry, none)
  | some id =>
    ({ registry with records := registry.records.filter fun component => component.ref != id },
      registry.record? id)

/-- The components without a placement, in order of registration. -/
def harvest (registry : Registry) : List Component :=
  registry.records.filter fun component => !registry.isPlaced component.ref

/-- The number of registered components. -/
def size (registry : Registry) : Nat :=
  registry.records.length

/-- The number of placements. -/
def placedCount (registry : Registry) : Nat :=
  registry.placements.length

/-- An operation on a registry. -/
inductive Operation where
  /-- Registers a component under its reference. -/
  | register (component : Component)
  /-- Places a reference. -/
  | place (id : String) (placement : Placement)
  /-- Makes a reference the root. -/
  | setRoot (id : String)
  /-- Takes the component of the root out. -/
  | takeRoot
  /-- Attaches a copy of a registered component to another one. -/
  | attach (container target : String)

/-- What an operation answers. -/
inductive Answer where
  /-- Whether the component was registered. -/
  | registered (accepted : Bool)
  /-- Whether the reference was placed. -/
  | placed (accepted : Bool)
  /-- Nothing. -/
  | done
  /-- The component of the root, if there is one. -/
  | taken (root : Option Component)
  /-- Whether both components were found. -/
  | attached (result : Except Failure Unit)

/-- Attaches a copy of the component under one reference to the component under another one. The
component to copy is looked up first. -/
def attach (registry : Registry) (container target : String) : Registry × Except Failure Unit :=
  match registry.component target, registry.component container with
  | .ok child, .ok _ => (registry.addChild container child, .ok ())
  | .ok _, .error failure => (registry, .error failure)
  | .error failure, _ => (registry, .error failure)

/-- Performs an operation. -/
def perform (registry : Registry) : Operation → Registry × Answer
  | .register component =>
    ((registry.register component).1, .registered (registry.register component).2)
  | .place id placement =>
    ((registry.place id placement).1, .placed (registry.place id placement).2)
  | .setRoot id => (registry.setRoot id, .done)
  | .takeRoot => (registry.takeRoot.1, .taken registry.takeRoot.2)
  | .attach container target =>
    ((registry.attach container target).1, .attached (registry.attach container target).2)

end Registry

end Sbom.Conversion
