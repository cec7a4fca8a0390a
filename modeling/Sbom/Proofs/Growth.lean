import Mathlib.Data.List.Forall2
import Sbom.Proofs.Resolution

/-!
# Records that only grow

The edges of a document let records of the registry gain children behind the ones they have. Nothing
else of a record changes, and no record comes, leaves or moves, also where an edge fails.
-/

namespace Sbom.Conversion

open CycloneDx (Component)
open Sbom.Graph (Edge)

/-- The same component, perhaps with further children behind the earlier ones. -/
structure GrowsInto (before after : Component) : Prop where
  value : after.value = before.value
  children : before.children <+: after.children

namespace GrowsInto

variable {before middle after : Component}

theorem refl (component : Component) : GrowsInto component component :=
  ⟨rfl, List.prefix_rfl⟩

theorem trans (first : GrowsInto before middle) (second : GrowsInto middle after) :
    GrowsInto before after :=
  ⟨second.value.trans first.value, first.children.trans second.children⟩

theorem addChild (component child : Component) : GrowsInto component (component.addChild child) :=
  ⟨rfl, List.prefix_append _ _⟩

/-- A component that grows keeps its reference. -/
theorem ref (grows : GrowsInto before after) : after.ref = before.ref :=
  congrArg CycloneDx.ComponentDetails.ref grows.value

end GrowsInto

/-- The same records in the same order, perhaps with further children. -/
def AllGrowInto (before after : List Component) : Prop :=
  List.Forall₂ GrowsInto before after

namespace AllGrowInto

variable {before middle after : List Component}

theorem refl (records : List Component) : AllGrowInto records records :=
  List.forall₂_same.mpr fun record _ => .refl record

theorem trans (first : AllGrowInto before middle) (second : AllGrowInto middle after) :
    AllGrowInto before after := by
  induction first generalizing after with
  | nil => exact second
  | cons grows _ inductionHypothesis =>
      cases second with
      | cons growsOn rest => exact .cons (grows.trans growsOn) (inductionHypothesis rest)

/-- Records that grow keep their references. -/
theorem refs (grow : AllGrowInto before after) :
    after.map Component.ref = before.map Component.ref := by
  induction grow with
  | nil => rfl
  | cons grows _ inductionHypothesis =>
      rw [List.map_cons, List.map_cons, grows.ref, inductionHypothesis]

/-- Every later record is an earlier one that grew. -/
theorem exists_before (grow : AllGrowInto before after) {record : Component}
    (member : record ∈ after) : ∃ earlier ∈ before, GrowsInto earlier record := by
  induction grow with
  | nil => cases member
  | @cons earlier _ _ _ grows _ inductionHypothesis =>
      rcases List.mem_cons.mp member with rfl | isLater
      · exact ⟨earlier, List.mem_cons_self, grows⟩
      · obtain ⟨other, isEarlier, growsOther⟩ := inductionHypothesis isLater
        exact ⟨other, List.mem_cons_of_mem _ isEarlier, growsOther⟩

/-- Adding a child lets the record of its container grow. -/
theorem addChild (registry : Registry) (id : String) (child : Component) :
    AllGrowInto registry.records (registry.addChild id child).records := by
  rw [AllGrowInto, Registry.addChild, List.forall₂_map_right_iff, List.forall₂_same]
  intro record _
  split
  · exact .addChild record child
  · exact .refl record

end AllGrowInto

variable {registry : Registry} {source : String}

/-- Attaching targets lets records grow. -/
theorem attachTargets_grow (targets : List String) :
    AllGrowInto registry.records (attachTargets source targets registry).registry.records := by
  induction targets generalizing registry with
  | nil => exact .refl _
  | cons target rest inductionHypothesis =>
      rw [attachTargets]
      split
      case h_1 => exact .refl _
      case h_2 child _ =>
        split
        case isTrue => exact inductionHypothesis
        case isFalse =>
          have nested := AllGrowInto.addChild (registry.place target .nested).1 source child
          rw [Registry.place_records] at nested
          exact nested.trans inductionHypothesis

/-- Resolving an edge lets records grow. -/
theorem resolveEdge_grow (edge : Edge) :
    AllGrowInto registry.records (resolveEdge edge registry).registry.records := by
  unfold resolveEdge
  split
  case isFalse => exact .refl _
  case isTrue =>
    split
    case h_1 => exact attachTargets_grow edge.targets
    case h_2 =>
      unfold recordDependency
      split
      case h_1 report targets _ =>
        rw [(placeTargets_frame targets registry).1]
        exact .refl _
      case h_2 => exact .refl _
    case h_3 => exact .refl _

/-- An edge lets records grow, whether it is stopped, skipped or resolved. -/
theorem edgeStep_grow (interrupt : Interrupt) (index : Nat) (edge : Edge) (registry : Registry) :
    AllGrowInto registry.records (edgeStep interrupt index edge registry).registry.records := by
  unfold edgeStep
  split
  case h_1 => exact .refl _
  case h_2 =>
    split
    case isTrue => exact .refl _
    case isFalse => exact resolveEdge_grow edge

end Sbom.Conversion
