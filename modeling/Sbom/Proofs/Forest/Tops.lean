import Mathlib.Data.List.Nodup
import Mathlib.Data.List.Perm.Subperm
import Sbom.Proofs.Forest

/-!
# The trees of the outermost references

Every reference lies in the tree of exactly one reference that is nowhere nested: the one at the end
of its containers. `Orderly.refs_of_tops` states this for all of them at once, as a permutation that
each accepted containment preserves; the counting laws for a selection of trees follow from it.
-/

namespace Sbom.CycloneDx

/-- The references of a component and of everything nested in it, in pre-order. -/
def Component.refs (component : Component) : List String :=
  component.values.map ComponentDetails.ref

/-- A component has its own reference and those of its parts. -/
theorem Component.refs_node (details : ComponentDetails) (children : List Component) :
    Component.refs (.node details children) = details.ref :: children.flatMap Component.refs := by
  rw [Component.refs, Tree.values_node, Tree.valuesAll_eq_flatMap, List.map_cons, List.map_flatMap]
  rfl

/-- A component's own reference comes before those of its parts. -/
theorem Component.refs_eq (component : Component) :
    component.refs = component.ref :: component.children.flatMap Component.refs := by
  cases component with
  | node details children => exact Component.refs_node details children

/-- A renamed component keeps its references. -/
theorem Component.refs_rename (component : Component) (name : String) :
    Component.refs (component.rename name) = component.refs := by
  rw [Component.refs_eq, Component.refs_eq component]
  rfl

theorem Component.refs_addChild (component child : Component) :
    Component.refs (component.addChild child) = component.refs ++ child.refs := by
  rw [Component.refs, Tree.values_addChild, List.map_append]
  rfl

end Sbom.CycloneDx

namespace Sbom.Conversion.Forest

open CycloneDx (Component ComponentDetails)

/-- All references of a forest are among the given ones. -/
def Within (ids : List String) (forest : Forest) : Prop :=
  ∀ containment ∈ forest, containment.container ∈ ids ∧ containment.content ∈ ids

/-- The references that are nowhere nested, in the given order. -/
def tops (ids : List String) (forest : Forest) : List String :=
  ids.filter fun id => id ∉ forest.contents

/-- Every given reference is the reference of its record. -/
def Named (ids : List String) (record : String → Component) : Prop :=
  ∀ id ∈ ids, (record id).ref = id

section Views

variable {ids : List String} {forest : Forest} {container content id : String}

theorem mem_tops_iff : id ∈ tops ids forest ↔ id ∈ ids ∧ id ∉ forest.contents := by
  simp [tops]

theorem tops_append_eq_erase (distinct : ids.Nodup) :
    tops ids (forest ++ [⟨container, content⟩]) = (tops ids forest).erase content := by
  have distinctTops : (tops ids forest).Nodup := List.Nodup.filter _ distinct
  rw [distinctTops.erase_eq_filter, tops, tops, List.filter_filter]
  apply List.filter_congr
  intro id _
  rw [Bool.eq_iff_iff]
  simp [and_comm]

theorem within_append_iff :
    Within ids (forest ++ [⟨container, content⟩]) ↔
      Within ids forest ∧ container ∈ ids ∧ content ∈ ids := by
  constructor
  · intro within
    exact ⟨fun containment member => within containment (List.mem_append_left _ member),
      within ⟨container, content⟩ (by simp)⟩
  · rintro ⟨within, inside⟩ containment member
    rcases List.mem_append.mp member with earlier | last
    · exact within containment earlier
    · rw [List.mem_singleton.mp last]
      exact inside

end Views

namespace Outermost

variable {forest : Forest} {container content id top : String}

/-- The end of a chain of containers is not nested. -/
theorem top_not_nested (outermost : Outermost forest id top) : top ∉ forest.contents := by
  induction outermost with
  | here free => exact free
  | above _ _ inductionHypothesis => exact inductionHypothesis

/-- A reference that is not nested is its own end. -/
theorem eq_of_not_nested (outermost : Outermost forest id top) (free : id ∉ forest.contents) :
    top = id := by
  cases outermost with
  | here _ => rfl
  | above nested _ => exact absurd (mem_contents_of_mem nested) free

/-- The ends of the given references are among the given ones. -/
theorem top_mem {ids : List String} (within : Within ids forest)
    (outermost : Outermost forest id top) (member : id ∈ ids) : top ∈ ids := by
  induction outermost with
  | here _ => exact member
  | above nested _ inductionHypothesis => exact inductionHypothesis (within _ nested).1

end Outermost

namespace Orderly

variable {root : Option String} {forest : Forest} {id top : String} {ids : List String}
  {record : String → Component}

/-- The references of a tree are its own and those of the trees of its contents. -/
theorem refs_tree (orderly : Orderly root forest) (id : String) :
    (forest.tree record id).refs =
      (record id).ref :: (forest.contentsOf id).flatMap fun member =>
        (forest.tree record member).refs := by
  rw [orderly.tree_eq, Component.refs_node, List.flatMap_map]
  rfl

/-- Every part of a tree is the tree of its own reference. -/
theorem eq_tree_of_mem_preorder (orderly : Orderly root forest) (within : Within ids forest)
    (named : Named ids record) (member : id ∈ ids) {component : Component}
    (part : component ∈ (forest.tree record id).preorder) :
    component = forest.tree record component.ref := by
  induction id using orderly.contents_induction with
  | step id inductionHypothesis =>
      rw [orderly.tree_eq, Tree.preorder_node, ← orderly.tree_eq, List.mem_cons] at part
      rcases part with rfl | nested
      · rw [tree_ref, named id member]
      · rw [Tree.preorderAll_eq_flatMap, List.mem_flatMap] at nested
        obtain ⟨content, isContent, nested⟩ := nested
        obtain ⟨contentId, isNested, rfl⟩ := List.mem_map.mp isContent
        have contentMember := (within _ (mem_contentsOf_iff.mp isNested)).2
        exact inductionHypothesis contentId isNested contentMember nested

/-- A chain of containers has an end. -/
theorem exists_outermost (orderly : Orderly root forest) (id : String) :
    ∃ top, Outermost forest id top := by
  induction orderly generalizing id with
  | empty => exact ⟨id, .here (by simp [contents])⟩
  | @append forest container content earlier outer fresh proper notRoot inductionHypothesis =>
      have outerStill : container ∉ contents (forest ++ [⟨container, content⟩]) := by
        simp [outer, Ne.symm proper]
      obtain ⟨top, outermost⟩ := inductionHypothesis id
      induction outermost with
      | @here id free =>
          by_cases same : id = content
          · subst same
            exact ⟨container, .above (by simp) (.here outerStill)⟩
          · exact ⟨id, .here (by simp [free, same])⟩
      | above nested _ later =>
          obtain ⟨top, outermost⟩ := later
          exact ⟨top, .above (List.mem_append_left _ nested) outermost⟩

/-- Following the containers of a reference leads to one end only. -/
theorem outermost_unique (orderly : Orderly root forest) {other : String}
    (outermost : Outermost forest id top) (another : Outermost forest id other) : other = top := by
  induction outermost with
  | here free => exact another.eq_of_not_nested free
  | above nested _ inductionHypothesis =>
      cases another with
      | here free => exact absurd (mem_contents_of_mem nested) free
      | above nestedToo later =>
          rw [orderly.container_unique nestedToo nested] at later
          exact inductionHypothesis later

/-- The tree at the end of the containers of a reference holds everything that its own tree
holds. -/
theorem refs_subset_of_outermost (orderly : Orderly root forest)
    (outermost : Outermost forest id top) :
    (forest.tree record id).refs ⊆ (forest.tree record top).refs := by
  induction outermost with
  | here _ => exact List.Subset.refl _
  | @above id container top nested _ inductionHypothesis =>
      apply List.Subset.trans _ inductionHypothesis
      intro ref member
      rw [orderly.refs_tree container]
      exact List.mem_cons_of_mem _
        (List.mem_flatMap.mpr ⟨id, mem_contentsOf_iff.mpr nested, member⟩)

/-- A named reference lies in the tree at the end of its containers. -/
theorem mem_refs_of_outermost (orderly : Orderly root forest) (named : Named ids record)
    (member : id ∈ ids) (outermost : Outermost forest id top) :
    id ∈ (forest.tree record top).refs := by
  apply orderly.refs_subset_of_outermost outermost
  rw [orderly.refs_tree id, named id member]
  exact List.mem_cons_self

/-- The trees of the references that are nowhere nested hold every reference exactly once. -/
theorem refs_of_tops (orderly : Orderly root forest) (distinct : ids.Nodup)
    (within : Within ids forest) (named : Named ids record) :
    ((tops ids forest).flatMap fun id => (forest.tree record id).refs).Perm ids := by
  induction orderly with
  | empty =>
      have all : tops ids [] = ids := by simp [tops, contents]
      have nothing : Orderly root [] := .empty
      have single : ∀ id ∈ ids, (tree [] record id).refs = [id] := by
        intro id member
        rw [nothing.refs_tree, named id member]
        rfl
      rw [all, List.flatMap_congr single, List.flatMap_singleton']
  | @append forest container content earlier outer fresh proper notRoot inductionHypothesis =>
      obtain ⟨within, containerInside, contentInside⟩ := within_append_iff.mp within
      have extended : ∀ id, tree (forest ++ [⟨container, content⟩]) record id =
          if id = container then
            (forest.tree record container).addChild (forest.tree record content)
          else forest.tree record id :=
        fun id => earlier.tree_append outer fresh proper notRoot
      -- The tree of `content` moves from the list of trees into the tree of `container`.
      have contentTop : content ∈ tops ids forest := mem_tops_iff.mpr ⟨contentInside, fresh⟩
      have containerLeft : container ∈ (tops ids forest).erase content :=
        (List.mem_erase_of_ne (Ne.symm proper)).mpr (mem_tops_iff.mpr ⟨containerInside, outer⟩)
      have distinctLeft : ((tops ids forest).erase content).Nodup :=
        List.Nodup.erase content (List.Nodup.filter _ distinct)
      have others : ∀ id ∈ ((tops ids forest).erase content).erase container,
          (tree (forest ++ [⟨container, content⟩]) record id).refs =
            (forest.tree record id).refs := by
        intro id member
        have different : id ≠ container := by
          rintro rfl
          exact distinctLeft.not_mem_erase member
        rw [extended, if_neg different]
      rw [tops_append_eq_erase distinct]
      refine .trans ?_ (inductionHypothesis within)
      refine .trans ((List.perm_cons_erase containerLeft).flatMap_right _) (.symm ?_)
      refine .trans ((List.perm_cons_erase contentTop).flatMap_right _) ?_
      refine .trans (((List.perm_cons_erase containerLeft).cons content).flatMap_right _) ?_
      rw [List.flatMap_cons, List.flatMap_cons, List.flatMap_cons, List.flatMap_congr others,
        extended, if_pos rfl, Component.refs_addChild, ← List.append_assoc]
      exact List.perm_append_comm.append_right _

section Selection

variable {selected : List String}

/-- The trees of a selection and those of the other references that are nowhere nested hold every
reference exactly once. -/
theorem refs_of_selection (orderly : Orderly root forest) (distinct : ids.Nodup)
    (within : Within ids forest) (named : Named ids record) (selectedDistinct : selected.Nodup)
    (selectedTops : selected ⊆ tops ids forest) :
    ∃ others, (tops ids forest).Perm (selected ++ others) ∧
      ((selected.flatMap fun id => (forest.tree record id).refs) ++
        others.flatMap fun id => (forest.tree record id).refs).Perm ids := by
  obtain ⟨arranged, sameSelection, inOrder⟩ := selectedDistinct.subperm selectedTops
  obtain ⟨others, split⟩ := inOrder.exists_perm_append
  have splitTops : (tops ids forest).Perm (selected ++ others) :=
    split.trans (sameSelection.append_right others)
  refine ⟨others, splitTops, ?_⟩
  rw [← List.flatMap_append]
  exact (splitTops.flatMap_right _).symm.trans (orderly.refs_of_tops distinct within named)

/-- A selection of trees that are nowhere nested holds a reference once if the end of its containers
is selected, and not at all otherwise. -/
theorem count_refs (orderly : Orderly root forest) (distinct : ids.Nodup)
    (within : Within ids forest) (named : Named ids record) (selectedDistinct : selected.Nodup)
    (selectedTops : selected ⊆ tops ids forest) (member : id ∈ ids)
    (outermost : Outermost forest id top) :
    (selected.flatMap fun id => (forest.tree record id).refs).count id =
      if top ∈ selected then 1 else 0 := by
  obtain ⟨others, splitTops, splitRefs⟩ :=
    orderly.refs_of_selection distinct within named selectedDistinct selectedTops
  have once : (selected.flatMap fun id => (forest.tree record id).refs).count id +
      (others.flatMap fun id => (forest.tree record id).refs).count id = 1 := by
    rw [← List.count_append, splitRefs.count_eq]
    exact List.count_eq_one_of_mem distinct member
  have held : ∀ trees : List String, top ∈ trees →
      0 < (trees.flatMap fun id => (forest.tree record id).refs).count id := by
    intro trees topMember
    apply List.count_pos_iff.mpr
    exact List.mem_flatMap.mpr
      ⟨top, topMember, orderly.mem_refs_of_outermost named member outermost⟩
  split
  case isTrue chosen =>
    have := held selected chosen
    omega
  case isFalse notChosen =>
    have isTop : top ∈ tops ids forest :=
      mem_tops_iff.mpr ⟨outermost.top_mem within member, outermost.top_not_nested⟩
    have := held others ((List.mem_append.mp (splitTops.mem_iff.mp isTop)).resolve_left notChosen)
    omega

/-- The references of a selection of trees that are nowhere nested are distinct, and given. -/
theorem nodup_refs (orderly : Orderly root forest) (distinct : ids.Nodup)
    (within : Within ids forest) (named : Named ids record) (selectedDistinct : selected.Nodup)
    (selectedTops : selected ⊆ tops ids forest) :
    (selected.flatMap fun id => (forest.tree record id).refs).Nodup ∧
      (selected.flatMap fun id => (forest.tree record id).refs) ⊆ ids := by
  obtain ⟨others, _, splitRefs⟩ :=
    orderly.refs_of_selection distinct within named selectedDistinct selectedTops
  constructor
  · exact (List.nodup_append.mp (splitRefs.nodup_iff.mpr distinct)).1
  · intro ref member
    exact splitRefs.mem_iff.mp (List.mem_append_left _ member)

end Selection

end Orderly

end Sbom.Conversion.Forest
