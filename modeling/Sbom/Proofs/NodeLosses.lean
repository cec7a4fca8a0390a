import Mathlib.Data.List.Nodup
import Sbom.Proofs.Digits
import Sbom.Proofs.Population

/-!
# What a node loses on its way

A node that becomes a component reports what the component cannot carry, and nothing else. Here the
losses are listed again, by what they are instead of how they are found: `lossesOf` filters the
node's digests, links, identifiers and suppliers by a property of each. A digest is carried exactly
if CycloneDX has an algorithm of the same name, so digests and their losses add up to the digests of
the node.
-/

namespace Sbom

open Sbom.Graph (IdentifierKind Node Person)

/-- The entries of a map with a given key are the value of that key, if it has one. -/
theorem OrderedMap.filter_key_eq {κ ν : Type} [DecidableEq κ] (map : OrderedMap κ ν) (key : κ) :
    (map.entries.filter fun entry => entry.1 = key).map Prod.snd = (map.get? key).toList := by
  obtain ⟨entries, unique⟩ := map
  simp only [get?]
  induction entries with
  | nil => rfl
  | cons entry rest inductionHypothesis =>
      obtain ⟨fresh, uniqueRest⟩ := List.nodup_cons.mp unique
      by_cases same : entry.1 = key
      · have noOther : rest.filter (fun other => other.1 = key) = [] := by
          rw [List.filter_eq_nil_iff]
          intro other member sameKey
          apply fresh
          rw [same, ← of_decide_eq_true sameKey]
          exact List.mem_map_of_mem member
        simp [same, noOther]
      · simpa [same] using inductionHypothesis uniqueRest

/-- A key has a value exactly if an entry has the key. -/
theorem OrderedMap.get?_isSome_iff {κ ν : Type} [DecidableEq κ] {map : OrderedMap κ ν} {key : κ} :
    (map.get? key).isSome = true ↔ ∃ entry ∈ map.entries, entry.1 = key := by
  simp [get?, List.find?_isSome]

namespace Conversion

open CycloneDx (Component ComponentType)

/-- A name without its punctuation and in lower case. -/
def bareName (name : String) : List Char :=
  (name.toList.filter Char.isAlphanum).map Char.toLower

/-- Whether two algorithms have the same name; the formats use other punctuation and case. -/
def SameAlgorithm (algorithm : Graph.HashAlgorithm) (known : CycloneDx.HashAlgorithm) : Prop :=
  bareName algorithm.name = bareName known.name

theorem mem_hashAlgorithms (algorithm : Graph.HashAlgorithm) :
    algorithm ∈ Graph.HashAlgorithm.all := by
  cases algorithm <;> decide

/-- An algorithm is mapped to the one of the same name. -/
theorem hashAlgorithm?_eq_some_iff {algorithm : Graph.HashAlgorithm}
    {known : CycloneDx.HashAlgorithm} :
    hashAlgorithm? algorithm = some known ↔ SameAlgorithm algorithm known := by
  have table : ∀ algorithm ∈ Graph.HashAlgorithm.all, ∀ known ∈ CycloneDx.HashAlgorithm.all,
      (hashAlgorithm? algorithm = some known ↔ bareName algorithm.name = bareName known.name) := by
    decide +kernel
  exact table _ (mem_hashAlgorithms algorithm) _ (by cases known <;> decide)

/-- No two algorithms are mapped to the same one. -/
theorem hashAlgorithm?_inj {algorithm other : Graph.HashAlgorithm}
    {known : CycloneDx.HashAlgorithm} (isKnown : hashAlgorithm? algorithm = some known)
    (same : hashAlgorithm? other = hashAlgorithm? algorithm) : algorithm = other := by
  have table : ∀ algorithm ∈ Graph.HashAlgorithm.all, ∀ other ∈ Graph.HashAlgorithm.all,
      (hashAlgorithm? algorithm).isSome → hashAlgorithm? other = hashAlgorithm? algorithm →
      algorithm = other := by
    decide +kernel
  exact table _ (mem_hashAlgorithms algorithm) _ (mem_hashAlgorithms other)
    (by rw [isKnown]; rfl) same

/-- Whether CycloneDX has an algorithm. -/
def IsKnownAlgorithm (algorithm : Graph.HashAlgorithm) : Prop :=
  ∃ known, SameAlgorithm algorithm known

theorem isKnownAlgorithm_iff {algorithm : Graph.HashAlgorithm} :
    IsKnownAlgorithm algorithm ↔ (hashAlgorithm? algorithm).isSome = true := by
  simp only [IsKnownAlgorithm, ← hashAlgorithm?_eq_some_iff, Option.isSome_iff_exists]

instance (algorithm : Graph.HashAlgorithm) : Decidable (IsKnownAlgorithm algorithm) :=
  decidable_of_iff _ isKnownAlgorithm_iff.symm

/-- Whether a node has a purpose that names no component type, in any case. The type of a file is
not taken from its purpose. -/
def LosesPurpose (node : Node) : Prop :=
  node.kind ≠ .file ∧ node.primaryPurpose ≠ "" ∧
    ∀ type : ComponentType, type.name ≠ Text.lowercase node.primaryPurpose

/-- A purpose names no type exactly if no type has the name that it is in lower case. -/
theorem purposeType?_eq_none_iff {purpose : String} :
    purposeType? purpose = none ↔ ∀ type : ComponentType, type.name ≠ Text.lowercase purpose := by
  have complete : ∀ type : ComponentType, type ∈ ComponentType.all := by
    intro type
    cases type <;> decide
  simp [purposeType?, ComponentType.ofName?, complete]

theorem losesPurpose_iff {node : Node} :
    LosesPurpose node ↔ node.kind ≠ .file ∧ node.primaryPurpose ≠ "" ∧
      purposeType? node.primaryPurpose = none := by
  rw [purposeType?_eq_none_iff, LosesPurpose]

instance (node : Node) : Decidable (LosesPurpose node) :=
  decidable_of_iff _ losesPurpose_iff.symm

/-- Whether an identifier has no field of its own or is not what its kind says. -/
def LosesIdentifier (identifier : IdentifierKind × String) : Prop :=
  identifier.1 = .unknown ∨ identifier.1 = .gitObject ∨
    identifier.1 = .packageUrl ∧ PackageUrl.isPackageUrl identifier.2 = false

instance (identifier : IdentifierKind × String) : Decidable (LosesIdentifier identifier) :=
  inferInstanceAs (Decidable (_ ∨ _ ∨ _))

/-- The CPE names of version 2.2 that are hidden by one of version 2.3. -/
def hiddenCpes (node : Node) : List String :=
  if ∃ identifier ∈ node.identifiers.entries, identifier.1 = .cpe23 then
    (node.identifiers.entries.filter fun identifier => identifier.1 = .cpe22).map Prod.snd
  else []

section Losses

variable (node : Node)

/-- The loss of a purpose. -/
def purposeLoss : Degradation :=
  .atNode .unrecognizedPurpose node.id
    ("primary purpose '" ++ node.primaryPurpose ++ "' has no component type")

/-- The loss of a digest. -/
def hashLoss (algorithm : Graph.HashAlgorithm) : Degradation :=
  .atNode .unmappedHashAlgorithm node.id
    ("hash algorithm " ++ algorithm.name ++ " is not supported by CycloneDX")

/-- A link that is carried with a type from outside the vocabulary. -/
def referenceLoss (reference : Graph.ExternalReference) : Degradation :=
  .atNode .nonStandardExternalReference node.id
    ("external reference type '" ++ reference.kind ++ "' is not in the CycloneDX vocabulary")

/-- A package URL that is carried although it is none, or the loss of an identifier. -/
def identifierLoss (identifier : IdentifierKind × String) : Degradation :=
  if identifier.1 = .packageUrl then
    .atNode .malformedPackageUrl node.id ("package URL '" ++ identifier.2 ++ "' does not parse")
  else
    .atNode .droppedIdentifier node.id
      ("identifier of kind " ++ identifier.1.name ++ " has no CycloneDX field")

/-- The loss of a hidden CPE name. -/
def cpeLoss (older : String) : Degradation :=
  .atNode .shadowedCpe node.id ("only one CPE is supported, CPE 2.2 '" ++ older ++ "' was dropped")

/-- The loss of a supplier. -/
def supplierLoss (supplier : Person) : Degradation :=
  .atNode .extraSupplier node.id
    ("component supports a single supplier, '" ++ supplier.value.name ++ "' was dropped")

/-- Everything that a node loses: its purpose, digests, links outside the vocabulary, identifiers, a
hidden CPE name, and the suppliers after the first one, each of them in the order of the node. -/
def lossesOf : Report :=
  (if LosesPurpose node then [purposeLoss node] else []) ++
  (node.hashes.entries.filter fun digest => ¬ IsKnownAlgorithm digest.1).map
    (fun digest => hashLoss node digest.1) ++
  (node.externalReferences.filter fun reference => reference.kind ∉ externalReferenceTypes).map
    (referenceLoss node) ++
  (node.identifiers.entries.filter (LosesIdentifier ·)).map (identifierLoss node) ++
  (hiddenCpes node).map (cpeLoss node) ++
  (node.suppliers.drop 1).map (supplierLoss node)

end Losses

variable {node : Node}

/-- Picking and mapping items in one go. -/
theorem filterMap_eq_map_filter {α β : Type} {pick : α → Option β} {wanted : α → Prop}
    [DecidablePred wanted] {image : α → β}
    (picks : ∀ item, pick item = if wanted item then some (image item) else none)
    (items : List α) : items.filterMap pick = (items.filter (wanted ·)).map image := by
  rw [← List.filterMap_eq_map, List.filterMap_filter]
  apply List.filterMap_congr
  intro item _
  simp [picks]

theorem typeReport_eq : typeReport node = if LosesPurpose node then [purposeLoss node] else [] := by
  have sameTest : (node.kind = .file ∨ node.primaryPurpose.isEmpty = true ∨
      (purposeType? node.primaryPurpose).isSome = true) ↔ ¬ LosesPurpose node := by
    rw [losesPurpose_iff]
    cases purposeType? node.primaryPurpose <;> simp
    tauto
  unfold typeReport
  rw [if_congr sameTest rfl rfl, ite_not]
  rfl

theorem hashReport_eq :
    hashReport node = (node.hashes.entries.filter fun digest => ¬ IsKnownAlgorithm digest.1).map
      (fun digest => hashLoss node digest.1) := by
  apply filterMap_eq_map_filter
  intro digest
  cases mapped : hashAlgorithm? digest.1 <;> simp [mapped, isKnownAlgorithm_iff, hashLoss]

theorem referenceReport_eq :
    referenceReport node = (node.externalReferences.filter fun reference =>
      reference.kind ∉ externalReferenceTypes).map (referenceLoss node) := by
  apply filterMap_eq_map_filter
  intro reference
  by_cases standard : reference.kind ∈ externalReferenceTypes <;> simp [standard, referenceLoss]

/-- A hidden CPE name is the one of version 2.2 beside one of version 2.3. -/
theorem hiddenCpes_eq :
    hiddenCpes node = match node.identifiers.get? .cpe23, node.identifiers.get? .cpe22 with
      | some _, some older => [older]
      | _, _ => [] := by
  rw [hiddenCpes, if_congr OrderedMap.get?_isSome_iff.symm
    (OrderedMap.filter_key_eq node.identifiers .cpe22) rfl]
  cases node.identifiers.get? .cpe23 <;> cases node.identifiers.get? .cpe22 <;> rfl

/-- There is one hidden CPE name if both versions are present, and none otherwise. -/
theorem length_hiddenCpes :
    (hiddenCpes node).length =
      if (∃ identifier ∈ node.identifiers.entries, identifier.1 = .cpe23) ∧
        ∃ identifier ∈ node.identifiers.entries, identifier.1 = .cpe22 then 1 else 0 := by
  simp only [← OrderedMap.get?_isSome_iff]
  rw [hiddenCpes_eq]
  cases node.identifiers.get? .cpe23 <;> cases node.identifiers.get? .cpe22 <;> rfl

theorem identifierReport_eq :
    identifierReport node =
      (node.identifiers.entries.filter (LosesIdentifier ·)).map (identifierLoss node) ++
        (hiddenCpes node).map (cpeLoss node) := by
  rw [identifierReport, hiddenCpes_eq]
  congr 1
  · apply filterMap_eq_map_filter
    rintro ⟨kind, value⟩
    cases kind
    case packageUrl =>
      cases parses : PackageUrl.isPackageUrl value <;>
        simp [LosesIdentifier, identifierLoss, parses]
    all_goals simp [LosesIdentifier, identifierLoss]
  · cases node.identifiers.get? .cpe23 <;> cases node.identifiers.get? .cpe22 <;> rfl

/-- A mapping reports what the node loses. -/
theorem mappingReport_eq (node : Node) : mappingReport node = lossesOf node := by
  rw [mappingReport, typeReport_eq, hashReport_eq, referenceReport_eq, identifierReport_eq,
    supplierReport, ← List.drop_one, lossesOf, ← List.append_assoc _ (List.map _ _)]
  rfl

/-- Every loss is reported at the node that has it. -/
theorem nodeId_of_mem_lossesOf {entry : Degradation} (member : entry ∈ lossesOf node) :
    entry.nodeId = some node.id := by
  simp only [lossesOf, List.mem_append, List.mem_map] at member
  obtain ((((isPurpose | ⟨_, _, rfl⟩) | ⟨_, _, rfl⟩) | ⟨_, _, rfl⟩) | ⟨_, _, rfl⟩) | ⟨_, _, rfl⟩ :=
    member
  · split at isPurpose
    · cases List.mem_singleton.mp isPurpose
      rfl
    · cases isPurpose
  · rfl
  · rfl
  · unfold identifierLoss
    split <;> rfl
  · rfl
  · rfl

/-- The losses of unmapped digests are those of the digests without a known algorithm. -/
theorem lossesOf_ofKind_hash :
    (lossesOf node).ofKind .unmappedHashAlgorithm =
      (node.hashes.entries.filter fun digest => ¬ IsKnownAlgorithm digest.1).map
        fun digest => hashLoss node digest.1 := by
  have otherKind : ∀ {α : Type} {items : List α} (loss : α → Degradation),
      (∀ item, (loss item).kind ≠ .unmappedHashAlgorithm) →
      (items.map loss).filter (fun entry => entry.kind = .unmappedHashAlgorithm) = [] := by
    intro α items loss other
    simp [List.filter_eq_nil_iff, other]
  have purpose : (if LosesPurpose node then [purposeLoss node] else []).filter
      (fun entry => entry.kind = .unmappedHashAlgorithm) = [] := by
    split <;> rfl
  have identifier : ∀ identifier, (identifierLoss node identifier).kind ≠
      .unmappedHashAlgorithm := by
    intro identifier
    unfold identifierLoss
    split <;> exact nofun
  simp only [Report.ofKind, lossesOf, List.filter_append]
  rw [purpose, otherKind (referenceLoss node) fun _ => nofun, otherKind _ identifier,
    otherKind (cpeLoss node) fun _ => nofun, otherKind (supplierLoss node) fun _ => nofun]
  simp only [List.nil_append, List.append_nil]
  rw [List.filter_eq_self]
  intro entry member
  obtain ⟨_, _, rfl⟩ := List.mem_map.mp member
  rfl

/-- What a node becomes and what is reported of it: the report lists exactly what the node loses,
each time at the node. The digests of the component are those of the node that CycloneDX has an
algorithm for, in their order and under different algorithms, and the others are reported. Links and
licences are carried one by one, in order. -/
structure MappedFrom (node : Node) (component : Component) (report : Report) : Prop where
  losses : report = lossesOf node
  atNode : ∀ entry ∈ report, entry.nodeId = some node.id
  hiddenCpe : (hiddenCpes node).length =
    if (∃ identifier ∈ node.identifiers.entries, identifier.1 = .cpe23) ∧
      ∃ identifier ∈ node.identifiers.entries, identifier.1 = .cpe22 then 1 else 0
  hashes : List.Forall₂
    (fun digest hash => SameAlgorithm digest.1 hash.algorithm ∧ hash.content = digest.2)
    (node.hashes.entries.filter fun digest => IsKnownAlgorithm digest.1) component.value.hashes
  hashCount : component.value.hashes.length + (report.ofKind .unmappedHashAlgorithm).length =
    node.hashes.entries.length
  distinct : (component.value.hashes.map CycloneDx.Hash.algorithm).Nodup
  references : component.value.externalReferences =
    node.externalReferences.map fun reference => ⟨reference.kind, reference.url⟩
  licenses : component.value.licenses = node.licenses.map licenseChoice

/-- The digests that are carried are those with a known algorithm, in their order. -/
theorem mappedHashes_forall₂ : List.Forall₂
    (fun digest hash => SameAlgorithm digest.1 hash.algorithm ∧ hash.content = digest.2)
    (node.hashes.entries.filter fun digest => IsKnownAlgorithm digest.1) (mappedHashes node) := by
  unfold mappedHashes
  induction node.hashes.entries with
  | nil => exact .nil
  | cons digest rest inductionHypothesis =>
      cases mapped : hashAlgorithm? digest.1 with
      | none =>
          have unknown : ¬ IsKnownAlgorithm digest.1 := by simp [isKnownAlgorithm_iff, mapped]
          simpa [unknown, mapped] using inductionHypothesis
      | some known =>
          have isKnown : IsKnownAlgorithm digest.1 := by simp [isKnownAlgorithm_iff, mapped]
          simpa [isKnown, mapped] using
            ⟨hashAlgorithm?_eq_some_iff.mp mapped, inductionHypothesis⟩

/-- No algorithm has two digests in a component, as none has two in a node. -/
theorem nodup_mappedHashes : ((mappedHashes node).map CycloneDx.Hash.algorithm).Nodup := by
  have algorithms : (mappedHashes node).map CycloneDx.Hash.algorithm =
      (node.hashes.entries.map Prod.fst).filterMap hashAlgorithm? := by
    rw [mappedHashes, List.map_filterMap, List.filterMap_map]
    apply List.filterMap_congr
    intro digest _
    cases mapped : hashAlgorithm? digest.1 <;> simp [mapped]
  rw [algorithms]
  apply node.hashes.unique.filterMap
  intro algorithm other known isKnown otherIsKnown
  exact hashAlgorithm?_inj isKnown (otherIsKnown.trans isKnown.symm)

/-- A mapping is exact. -/
theorem mappedFrom : MappedFrom node (mappedComponent node) (mappingReport node) where
  losses := mappingReport_eq node
  atNode entry member := nodeId_of_mem_lossesOf (mappingReport_eq node ▸ member)
  hiddenCpe := length_hiddenCpes
  hashes := mappedHashes_forall₂
  hashCount := by
    have carried : (mappedHashes node).length =
        (node.hashes.entries.filter fun digest => IsKnownAlgorithm digest.1).length :=
      mappedHashes_forall₂.length_eq.symm
    have counted : (mappedComponent node).value.hashes.length = (mappedHashes node).length := rfl
    have all := node.hashes.entries.length_eq_length_filter_add fun digest =>
      decide (IsKnownAlgorithm digest.1)
    rw [mappingReport_eq, lossesOf_ofKind_hash, List.length_map, counted, carried, all]
    simp only [decide_not]
  distinct := nodup_mappedHashes
  references := rfl
  licenses := rfl

/-- What registering a node with an id reports, whatever was registered before: what the node loses,
and then whether its id is taken. -/
theorem registerNode_report (named : node.id ≠ "") (index : Nat) (registry : Registry) :
    (registerNode index node registry).2 =
      lossesOf node ++ if registry.contains node.id then
        [⟨.duplicateNodeId, some node.id,
          "node #" ++ toString index ++ " reuses an id, the earlier node was kept"⟩] else [] := by
  rw [registerNode_eq, if_neg named, mappingReport_eq, ← Text.decimalText_eq_toString]
  cases registry.contains node.id <;> simp [duplicateNode, Degradation.atNode]

/-- The mapping of nodes is exact and fully accounted for. A node with an id becomes a component, and
what is reported of it is what it loses, whatever was reported before: the entries before it are
those of the nodes before it, and what follows comes from its id being taken and from later nodes. -/
theorem mapNode_mappedFrom (named : node.id ≠ "") :
    (∃ component report, mapNode node = some (component, report) ∧
      MappedFrom node component report) ∧
    ∀ (interrupt : Interrupt) (before after : List Node) (registry : Registry) (report : Report),
      registerNodes interrupt (before ++ node :: after) = .ok (registry, report) →
      ∃ earlierRegistry earlier later,
        registerNodes interrupt before = .ok (earlierRegistry, earlier) ∧
        report = earlier ++ (lossesOf node ++ (if node.id ∈ registeredIds before then
          [⟨.duplicateNodeId, some node.id,
            "node #" ++ toString before.length ++ " reuses an id, the earlier node was kept"⟩]
          else []) ++ later) := by
  refine ⟨⟨_, _, mapNode_eq_some_iff.mpr ⟨named, rfl, rfl⟩, mappedFrom⟩, ?_⟩
  intro interrupt before after registry report succeeds
  obtain ⟨middle, earlier, _, first, last, rfl⟩ := registerNodesFrom_append_eq_ok before succeeds
  obtain ⟨_, later, _, rfl⟩ := registerNodesFrom_cons_eq_ok_iff.mp last
  have isTaken : middle.contains node.id = true ↔ node.id ∈ registeredIds before :=
    (registerNodes_populated first).contains_iff
  refine ⟨middle, earlier, later, first, ?_⟩
  rw [registerNode_report named, if_congr isTaken rfl rfl, Nat.zero_add]

/-- A node that loses its purpose, two digests, two identifiers, a CPE name and a supplier. The type
of one of its links is outside the vocabulary, and its package URL is none. -/
def ladenNode : Node where
  id := "lib"
  primaryPurpose := "gadget"
  licenses := ["MIT", "Apache-2.0 OR ISC"]
  hashes := ⟨[(.md2, "0a"), (.sha256, "0b"), (.adler32, "0c"), (.sha1, "0d")], by decide⟩
  externalReferences := [⟨"vcs", "git:lib"⟩, ⟨"wiki", "wiki:lib"⟩]
  identifiers := ⟨[(.cpe22, "cpe:/a:lib"), (.gitObject, "gitoid:0e"), (.packageUrl, "lib"),
    (.unknown, "17"), (.cpe23, "cpe:2.3:a:lib")], by decide⟩
  suppliers := [.leaf { name := "first" }, .leaf { name := "second" }]

theorem mapNode_ladenNode :
    ladenNode.id ≠ "" ∧
    (∃ component report, mapNode ladenNode = some (component, report) ∧
      report.map Degradation.kind = [.unrecognizedPurpose, .unmappedHashAlgorithm,
        .unmappedHashAlgorithm, .nonStandardExternalReference, .droppedIdentifier,
        .malformedPackageUrl, .droppedIdentifier, .shadowedCpe, .extraSupplier] ∧
      component.value.hashes = [⟨.sha256, "0b"⟩, ⟨.sha1, "0d"⟩]) ∧
    ∃ registry report earlierRegistry earlier later,
      registerNodes {} ([{ id := "" }, { id := "lib" }] ++ ladenNode :: [{ id := "app" }]) =
        .ok (registry, report) ∧
      registerNodes {} [{ id := "" }, { id := "lib" }] = .ok (earlierRegistry, earlier) ∧
      report = earlier ++ (lossesOf ladenNode ++ [⟨.duplicateNodeId, some "lib",
        "node #2 reuses an id, the earlier node was kept"⟩] ++ later) := by
  have named : ladenNode.id ≠ "" := by decide
  obtain ⟨⟨component, report, maps, mapped⟩, registered⟩ := mapNode_mappedFrom named
  obtain ⟨earlierRegistry, earlier, later, first, split⟩ :=
    registered {} [{ id := "" }, { id := "lib" }] [{ id := "app" }] _ _ rfl
  refine ⟨named, ⟨component, report, maps, ?_, ?_⟩, _, _, earlierRegistry, earlier, later, rfl,
    first, split⟩
  · rw [mapped.losses]
    decide +kernel
  · cases maps
    rfl

end Conversion

end Sbom
