import Sbom.Proofs.ReportedRefs

/-!
# Documents for older versions

A document for a version before 1.5 is the same document without lifecycles and without the types
that came with 1.5, wherever in a tree a component has one. `Bom.IsOlderForm` says this place by
place, and leaves one document only. A search for such parts goes first and may spare the change;
both look at the same components, so that the change is spared exactly where it would change
nothing.
-/

namespace Sbom.Tree

variable {α : Type}

/-- The value at the end of a path of child positions. -/
def valueAt? (tree : Tree α) : List Nat → Option α
  | [] => some tree.value
  | index :: path => tree.children[index]?.bind fun child => child.valueAt? path

/-- Replacing values replaces the value at each path. -/
theorem valueAt?_map (f : α → α) (tree : Tree α) (path : List Nat) :
    (tree.map f).valueAt? path = (tree.valueAt? path).map f := by
  induction path generalizing tree with
  | nil => cases tree with | node value children => rfl
  | cons index path inductionHypothesis =>
      cases tree with
      | node value children =>
          simp only [map, valueAt?, Tree.children, mapAll_eq_map, List.getElem?_map]
          cases children[index]? with
          | none => rfl
          | some child => exact inductionHypothesis child

mutual

/-- A tree is determined by its values at all paths. -/
theorem eq_of_valueAt? : (tree other : Tree α) →
    (∀ path, tree.valueAt? path = other.valueAt? path) → tree = other
  | node value children, node otherValue otherChildren, same => by
    have sameValue : value = otherValue := Option.some.inj (same [])
    rw [sameValue, all_eq_of_valueAt? children otherChildren fun index path => same (index :: path)]

/-- Trees are determined by their positions and their values at all paths. -/
theorem all_eq_of_valueAt? : (trees others : List (Tree α)) →
    (∀ (index : Nat) (path : List Nat),
      trees[index]?.bind (valueAt? · path) = others[index]?.bind (valueAt? · path)) →
    trees = others
  | [], [], _ => rfl
  | [], _ :: _, same => by cases same 0 []
  | _ :: _, [], same => by cases same 0 []
  | tree :: trees, other :: others, same => by
    rw [eq_of_valueAt? tree other fun path => same 0 path,
      all_eq_of_valueAt? trees others fun index path => same (index + 1) path]

end

end Sbom.Tree

namespace Sbom.CycloneDx

namespace SpecVersion

variable {version other : SpecVersion}

/-- The position of a version among all versions, the oldest first. -/
def rank (version : SpecVersion) : Nat :=
  all.idxOf version

/-- The older one of two versions. -/
def older (version other : SpecVersion) : SpecVersion :=
  if version.rank ≤ other.rank then version else other

/-- Lifecycles came with version 1.5 and stayed. -/
theorem supportsLifecycles_iff : version.supportsLifecycles = true ↔ rank .v1_5 ≤ version.rank := by
  cases version <;> decide

theorem older_comm (version other : SpecVersion) : version.older other = other.older version := by
  cases version <;> cases other <;> rfl

theorem older_self (version : SpecVersion) : version.older version = version := ite_self _

/-- The older one of two versions has lifecycles if both do. -/
theorem supportsLifecycles_older :
    (version.older other).supportsLifecycles =
      (version.supportsLifecycles && other.supportsLifecycles) := by
  cases version <;> cases other <;> rfl

end SpecVersion

/-- The component types that came with version 1.5. -/
def recentTypes : List ComponentType :=
  [.data, .deviceDriver, .machineLearningModel, .platform]

namespace ComponentDetails

variable {details : ComponentDetails}

theorem hasRecentType_iff :
    details.hasRecentType = true ↔ ∃ type ∈ recentTypes, details.type = some type := by
  unfold hasRecentType
  cases details.type with
  | none => simp
  | some type => cases type <;> simp [ComponentType.isRecent, recentTypes]

theorem withoutRecentType_eq (details : ComponentDetails) :
    details.withoutRecentType =
      if ∃ type ∈ recentTypes, details.type = some type then { details with type := none }
      else details := by
  simp only [withoutRecentType, hasRecentType_iff]

/-- What is known of a component stays as it is exactly if its type is not recent. -/
theorem withoutRecentType_eq_self_iff :
    details.withoutRecentType = details ↔ details.hasRecentType = false := by
  unfold withoutRecentType
  split
  next isRecent =>
    refine iff_of_false (fun same => ?_) (by simp [isRecent])
    have untyped : details.type = none := by rw [← same]
    simp [hasRecentType, untyped] at isRecent
  next notRecent => exact iff_of_true rfl (Bool.eq_false_iff.mpr notRecent)

/-- No recent type is left. -/
theorem hasRecentType_withoutRecentType : details.withoutRecentType.hasRecentType = false := by
  unfold withoutRecentType
  split
  next => rfl
  next notRecent => exact Bool.eq_false_iff.mpr notRecent

end ComponentDetails

/-- A place of a component in a document. -/
inductive Place where
  /-- At the end of a path in the root tree. -/
  | inRoot (path : List Nat)
  /-- At the end of a path in the top-level tree at an index. -/
  | inTopLevel (index : Nat) (path : List Nat)

namespace Bom

variable {bom old : Bom} {version other : SpecVersion}

/-- What is known of the component at a place. -/
def detailsAt? (bom : Bom) : Place → Option ComponentDetails
  | .inRoot path => bom.metadata.component.bind fun root => root.valueAt? path
  | .inTopLevel index path => bom.components[index]?.bind fun tree => tree.valueAt? path

/-- Whether a document is another one without lifecycles and without the types that came with
version 1.5, and the same in everything else. -/
structure IsOlderForm (bom old : Bom) : Prop where
  serialNumber : old.serialNumber = bom.serialNumber
  version : old.version = bom.version
  timestamp : old.metadata.timestamp = bom.metadata.timestamp
  lifecycles : old.metadata.lifecycles = []
  tools : old.metadata.tools = bom.metadata.tools
  authors : old.metadata.authors = bom.metadata.authors
  details : ∀ place, old.detailsAt? place = (bom.detailsAt? place).map fun details =>
    if ∃ type ∈ recentTypes, details.type = some type then { details with type := none } else details
  dependencies : old.dependencies = bom.dependencies

/-- A document has nothing recent exactly if it has no lifecycles and no component has a recent
type. -/
theorem hasRecentParts_eq_false_iff :
    bom.hasRecentParts = false ↔
      bom.metadata.lifecycles = [] ∧
        ∀ details ∈ Tree.valuesAll bom.trees, details.hasRecentType = false := by
  rw [hasRecentParts, Bool.or_eq_false_iff, Tree.anyValueAll_eq_false_iff, Bool.not_eq_false',
    List.isEmpty_iff]

/-- The search for recent parts agrees with their removal: it finds none exactly if nothing is
removed. -/
theorem withoutRecentParts_eq_self_iff :
    bom.withoutRecentParts = bom ↔ bom.hasRecentParts = false := by
  rw [hasRecentParts_eq_false_iff]
  constructor
  · intro same
    have sameTrees : Tree.mapAll ComponentDetails.withoutRecentType bom.trees = bom.trees := by
      rw [← trees_withoutRecentParts, same]
    refine ⟨by rw [← same]; rfl, fun details member => ?_⟩
    exact ComponentDetails.withoutRecentType_eq_self_iff.mp
      ((Tree.mapAll_eq_self_iff _ _).mp sameTrees details member)
  · rintro ⟨noLifecycles, notRecent⟩
    have kept : ∀ details ∈ Tree.valuesAll bom.trees, details.withoutRecentType = details :=
      fun details member =>
        ComponentDetails.withoutRecentType_eq_self_iff.mpr (notRecent details member)
    rw [trees, Tree.valuesAll_append, List.forall_mem_append] at kept
    have sameRoot : bom.metadata.component.map (Tree.map ComponentDetails.withoutRecentType) =
        bom.metadata.component := by
      cases root : bom.metadata.component with
      | none => rfl
      | some tree =>
          have keptRoot := kept.1
          rw [root, Option.toList_some, Tree.valuesAll_cons, Tree.valuesAll_nil,
            List.append_nil] at keptRoot
          rw [Option.map_some, (Tree.map_eq_self_iff _ tree).mpr keptRoot]
    have sameTopLevel := (Tree.mapAll_eq_self_iff _ bom.components).mpr kept.2
    rw [withoutRecentParts, sameRoot, sameTopLevel, ← noLifecycles]

/-- What is left has nothing recent. -/
theorem hasRecentParts_withoutRecentParts : bom.withoutRecentParts.hasRecentParts = false := by
  rw [hasRecentParts_eq_false_iff, trees_withoutRecentParts, Tree.valuesAll_mapAll,
    List.forall_mem_map]
  exact ⟨rfl, fun details _ => ComponentDetails.hasRecentType_withoutRecentType⟩

/-- Whether the removal is spared or not, a document for a version without lifecycles is the one
without recent parts. -/
theorem downgrade_eq (bom : Bom) (version : SpecVersion) :
    bom.downgrade version =
      if version.supportsLifecycles then bom else bom.withoutRecentParts := by
  unfold downgrade fits
  cases version.supportsLifecycles with
  | true => rfl
  | false =>
      cases recent : bom.hasRecentParts with
      | true => rfl
      | false => exact (withoutRecentParts_eq_self_iff.mpr recent).symm

/-- A document without recent parts is written as it is for every version. -/
theorem downgrade_withoutRecentParts (bom : Bom) (version : SpecVersion) :
    bom.withoutRecentParts.downgrade version = bom.withoutRecentParts := by
  rw [downgrade_eq, withoutRecentParts_eq_self_iff.mpr hasRecentParts_withoutRecentParts, ite_self]

/-- A document is taken as it is exactly if it would not change. -/
theorem fits_iff : bom.fits version = true ↔ bom.downgrade version = bom := by
  rw [downgrade_eq, fits]
  cases version.supportsLifecycles with
  | true => simp
  | false => simpa using withoutRecentParts_eq_self_iff.symm

/-- Writing for one version and then for another is writing for the older one. -/
theorem downgrade_downgrade (bom : Bom) (version other : SpecVersion) :
    (bom.downgrade version).downgrade other = bom.downgrade (version.older other) := by
  rw [downgrade_eq bom version, downgrade_eq bom (version.older other),
    SpecVersion.supportsLifecycles_older]
  cases version.supportsLifecycles with
  | true => exact downgrade_eq bom other
  | false => exact downgrade_withoutRecentParts bom other

/-- The structure of a document has the same defect after as before. -/
theorem structuralDefect?_downgrade (bom : Bom) (version : SpecVersion) :
    (bom.downgrade version).structuralDefect? = bom.structuralDefect? := by
  have sameRecords : (bom.downgrade version).dependencies = bom.dependencies := by
    rw [downgrade_eq]
    split <;> rfl
  rw [structuralDefect?, structuralDefect?, refs_downgrade, sameRecords]

/-- Without recent parts, each place holds what it held, without a recent type. -/
theorem detailsAt?_withoutRecentParts (bom : Bom) (place : Place) :
    bom.withoutRecentParts.detailsAt? place =
      (bom.detailsAt? place).map ComponentDetails.withoutRecentType := by
  cases place with
  | inRoot path =>
      simp only [detailsAt?, withoutRecentParts]
      cases bom.metadata.component with
      | none => rfl
      | some root => exact Tree.valueAt?_map _ root path
  | inTopLevel index path =>
      simp only [detailsAt?, withoutRecentParts, Tree.mapAll_eq_map, List.getElem?_map]
      cases bom.components[index]? with
      | none => rfl
      | some tree => exact Tree.valueAt?_map _ tree path

/-- The trees of a document are determined by what is at each place. -/
theorem trees_eq_of_detailsAt? {left right : Bom}
    (same : ∀ place, left.detailsAt? place = right.detailsAt? place) :
    left.metadata.component = right.metadata.component ∧ left.components = right.components := by
  refine ⟨?_, Tree.all_eq_of_valueAt? _ _ fun index path => same (.inTopLevel index path)⟩
  have sameRoot := fun path => same (.inRoot path)
  simp only [detailsAt?] at sameRoot
  cases leftRoot : left.metadata.component with
  | none =>
      cases rightRoot : right.metadata.component with
      | none => rfl
      | some _ =>
          rw [leftRoot, rightRoot] at sameRoot
          cases sameRoot []
  | some tree =>
      cases rightRoot : right.metadata.component with
      | none =>
          rw [leftRoot, rightRoot] at sameRoot
          cases sameRoot []
      | some other =>
          rw [leftRoot, rightRoot] at sameRoot
          rw [Tree.eq_of_valueAt? tree other sameRoot]

/-- A document has one older form only: itself without recent parts. -/
theorem isOlderForm_iff : bom.IsOlderForm old ↔ old = bom.withoutRecentParts := by
  constructor
  · intro isOlder
    have sameDetails : ∀ place, old.detailsAt? place = bom.withoutRecentParts.detailsAt? place := by
      intro place
      rw [isOlder.details, detailsAt?_withoutRecentParts]
      exact congrArg (Option.map · _)
        (funext fun details => (ComponentDetails.withoutRecentType_eq details).symm)
    obtain ⟨sameRoot, sameTopLevel⟩ := trees_eq_of_detailsAt? sameDetails
    obtain ⟨serialNumber, version, ⟨timestamp, lifecycles, tools, authors, root⟩, components,
      dependencies⟩ := old
    cases isOlder.serialNumber
    cases isOlder.version
    cases isOlder.timestamp
    cases isOlder.lifecycles
    cases isOlder.tools
    cases isOlder.authors
    cases isOlder.dependencies
    cases sameRoot
    cases sameTopLevel
    rfl
  · rintro rfl
    refine ⟨rfl, rfl, rfl, rfl, rfl, rfl, fun place => ?_, rfl⟩
    rw [detailsAt?_withoutRecentParts]
    exact congrArg (Option.map · _) (funext ComponentDetails.withoutRecentType_eq)

/-- A document for a version is taken as it is exactly if nothing would change. From version 1.5 on
nothing does. Before it, the document is the one older form: it has no lifecycles, each component
with a recent type has lost this type and nothing else, and nothing else has changed. A second time
changes nothing; of two versions the older one decides, whichever comes first; and the structure has
the same defect, if any. -/
theorem downgrade_isOlderForm (bom : Bom) (version : SpecVersion) :
    (bom.fits version = true ↔ bom.downgrade version = bom) ∧
    (SpecVersion.rank .v1_5 ≤ version.rank → bom.downgrade version = bom) ∧
    (version.rank < SpecVersion.rank .v1_5 →
      (∀ old, bom.IsOlderForm old ↔ old = bom.downgrade version) ∧
      (bom.downgrade version).metadata.lifecycles = [] ∧
      ∀ component ∈ (bom.downgrade version).walk, ∀ type ∈ recentTypes,
        component.value.type ≠ some type) ∧
    (bom.downgrade version).downgrade version = bom.downgrade version ∧
    (∀ other, (bom.downgrade version).downgrade other = bom.downgrade (version.older other) ∧
      (bom.downgrade other).downgrade version = bom.downgrade (version.older other)) ∧
    (bom.downgrade version).structuralDefect? = bom.structuralDefect? := by
  refine ⟨fits_iff, fun isRecent => ?_, fun isOld => ?_, ?_, fun other => ⟨?_, ?_⟩,
    structuralDefect?_downgrade bom version⟩
  · rw [downgrade_eq, if_pos (SpecVersion.supportsLifecycles_iff.mpr isRecent)]
  · have isRemoval : bom.downgrade version = bom.withoutRecentParts := by
      rw [downgrade_eq, if_neg]
      rw [SpecVersion.supportsLifecycles_iff]
      exact Nat.not_le.mpr isOld
    rw [isRemoval]
    refine ⟨fun old => isOlderForm_iff, rfl, fun component member type isRecent hasType => ?_⟩
    have untyped := (hasRecentParts_eq_false_iff.mp hasRecentParts_withoutRecentParts).2 _
      (List.mem_map_of_mem member)
    rw [ComponentDetails.hasRecentType_iff.mpr ⟨type, isRecent, hasType⟩] at untyped
    cases untyped
  · rw [downgrade_downgrade, SpecVersion.older_self]
  · exact downgrade_downgrade bom version other
  · rw [downgrade_downgrade, SpecVersion.older_comm]

/-- A document with a lifecycle, a recent type below the root and another one below a top-level
component, whose own type is an older one. -/
def trainedBom : Bom where
  metadata := {
    lifecycles := [.phase .design]
    component := some (.node { type := some .application, ref := "app" }
      [.leaf { type := some .machineLearningModel, ref := "model", name := "weights" }]) }
  components := [.node { type := some .library, ref := "lib" }
    [.leaf { type := some .platform, ref := "system" }]]

theorem downgrade_trainedBom :
    (SpecVersion.rank .v1_4 < SpecVersion.rank .v1_5 ∧
      SpecVersion.rank .v1_5 ≤ SpecVersion.rank .v1_6) ∧
    trainedBom.downgrade .v1_6 = trainedBom ∧ trainedBom.downgrade .v1_4 ≠ trainedBom ∧
    (trainedBom.downgrade .v1_4).detailsAt? (.inRoot [0]) =
      some { ref := "model", name := "weights" } ∧
    (trainedBom.downgrade .v1_4).detailsAt? (.inTopLevel 0 []) =
      some { type := some .library, ref := "lib" } ∧
    ∀ component ∈ (trainedBom.downgrade .v1_4).walk, component.value.type ≠ some .platform := by
  have before : SpecVersion.rank .v1_4 < SpecVersion.rank .v1_5 := by decide
  have since : SpecVersion.rank .v1_5 ≤ SpecVersion.rank .v1_6 := by decide
  obtain ⟨unique, _, typesGone⟩ := (downgrade_isOlderForm trainedBom .v1_4).2.2.1 before
  have details := ((unique _).mpr rfl).details
  refine ⟨⟨before, since⟩, (downgrade_isOlderForm trainedBom .v1_6).2.1 since, ?_,
    details (.inRoot [0]), details (.inTopLevel 0 []), ?_⟩
  · rw [Ne, ← (downgrade_isOlderForm trainedBom .v1_4).1]
    decide
  · exact fun component member => typesGone component member .platform (by decide)

end Bom

end Sbom.CycloneDx
