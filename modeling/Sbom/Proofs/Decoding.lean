import Mathlib.Data.List.Nodup
import Mathlib.Data.Option.Basic
import Sbom.Json.Decode
import Sbom.OrderedMap
import Sbom.Proofs.Layout

/-!
# Decoding written values

The decoders are inverse to writing: a string, a truth value, an optional value, a sequence, a map and
a record are decoded to what they were written from, if the parts are and the value does not nest
deeper than the decoder goes. A record is decoded field by field, each written once and in order.
`Decodes` says so of one value, and each kind of decoder has one lemma for it.
-/

namespace Sbom.Json

mutual

/-- How many arrays and objects a value has one in another. -/
def nesting : Json → Nat
  | .array items => nestingOfItems items + 1
  | .object members => nestingOfMembers members + 1
  | .null => 0
  | .bool _ => 0
  | .number _ => 0
  | .string _ => 0

/-- How many arrays and objects some of several values has one in another. -/
def nestingOfItems : List Json → Nat
  | [] => 0
  | item :: rest => max (nesting item) (nestingOfItems rest)

/-- How many arrays and objects the value of some member has one in another. -/
def nestingOfMembers : List (String × Json) → Nat
  | [] => 0
  | (_, value) :: rest => max (nesting value) (nestingOfMembers rest)

end

theorem nesting_le_of_mem {item : Json} {items : List Json} (member : item ∈ items) :
    item.nesting ≤ nestingOfItems items := by
  induction items with
  | nil => cases member
  | cons first rest inductionHypothesis =>
      rw [nestingOfItems]
      rcases List.mem_cons.mp member with rfl | later
      · exact Nat.le_max_left _ _
      · exact Nat.le_trans (inductionHypothesis later) (Nat.le_max_right _ _)

/-- Whether a value can be written and read as a whole, and a decoder gives a result for it that nests
no deeper than the decoder may go, as long as it may not go deeper than a limit. -/
structure Decodes {α : Type} (limit : Nat) (decode : Decoder α) (value : Json) (result : α) :
    Prop where
  tidy : value.IsTidy
  decodes : ∀ remaining, value.nesting < remaining → remaining ≤ limit →
    decode remaining value.draft = .ok result

section Values

variable {α : Type} {limit : Nat} {decode : Decoder α}

theorem Decodes.mono {smaller : Nat} {value : Json} {result : α}
    (reads : Decodes limit decode value result) (atMost : smaller ≤ limit) :
    Decodes smaller decode value result where
  tidy := reads.tidy
  decodes remaining fits bounded := reads.decodes remaining fits (Nat.le_trans bounded atMost)

theorem enter_of_lt {inside remaining : Nat} (fits : inside + 1 < remaining) :
    enter remaining = .ok (remaining - 1) :=
  if_neg (by omega)

theorem decodes_string (text : String) : Decodes limit decodeString (.string text) text :=
  ⟨.string text, fun _ _ _ => rfl⟩

theorem decodes_bool (value : Bool) : Decodes limit decodeBool (.bool value) value :=
  ⟨.bool value, fun _ _ _ => rfl⟩

theorem decodes_none : Decodes limit (decodeOption decode) .null none :=
  ⟨.null, fun _ _ _ => rfl⟩

/-- A string is not null, so it is decoded as an optional value that is there. -/
theorem decodes_some {text : String} {result : α}
    (reads : Decodes limit decode (.string text) result) :
    Decodes limit (decodeOption decode) (.string text) (some result) := by
  refine ⟨.string text, fun remaining fits bounded => ?_⟩
  have inner := reads.decodes remaining fits bounded
  rw [draft] at inner ⊢
  rw [decodeOption, inner]
  · rfl
  · exact Draft.noConfusion

/-- A name is decoded to what it stands for. -/
theorem decodes_variant {ofName : String → Except DecodeFault α} {name : String} {result : α}
    (named : ofName name = .ok result) :
    Decodes limit (decodeVariant ofName) (.string name) result :=
  ⟨.string name, fun _ _ _ => named⟩

/-- A sequence is decoded item by item. -/
theorem decodes_list {toJson : α → Json} {values : List α}
    (reads : ∀ value ∈ values, Decodes limit decode (toJson value) value) :
    Decodes (limit + 1) (decodeList decode) (.array (values.map toJson)) values := by
  refine ⟨.array (List.forall_mem_map.mpr fun value member => (reads value member).tidy),
    fun remaining fits bounded => ?_⟩
  rw [nesting] at fits
  have items : decodeItems (decode (remaining - 1)) (drafts (values.map toJson)) = .ok values := by
    have inside : ∀ value ∈ values, (toJson value).nesting < remaining - 1 := by
      intro value member
      have := nesting_le_of_mem (List.mem_map_of_mem (f := toJson) member)
      omega
    clear fits
    induction values with
    | nil => rfl
    | cons value rest inductionHypothesis =>
        obtain ⟨readsFirst, readsRest⟩ := List.forall_mem_cons.mp reads
        obtain ⟨firstInside, restInside⟩ := List.forall_mem_cons.mp inside
        have first := readsFirst.decodes (remaining - 1) firstInside (by omega)
        have others := inductionHypothesis readsRest restInside
        rw [List.map_cons, drafts, decodeItems, first, others]
        rfl
  rw [draft, decodeList, enter_of_lt fits]
  simp only [bind, Except.bind, items]
  rfl

end Values

section Maps

variable {κ : Type} [DecidableEq κ] {name : κ → String} {known : List String}
  {ofName? : String → Option κ}

/-- A new key is set at the end. -/
theorem setEntry_of_fresh {key : κ} {text : String} {entries : List (κ × String)}
    (fresh : key ∉ entries.map Prod.fst) :
    setEntry key text entries = entries ++ [(key, text)] := by
  induction entries with
  | nil => rfl
  | cons entry rest inductionHypothesis =>
      simp only [List.map_cons, List.mem_cons, not_or] at fresh
      rw [setEntry, if_neg (Ne.symm fresh.1), inductionHypothesis fresh.2, List.cons_append]

/-- The entries of a map. -/
def entryMembers (name : κ → String) (entries : List (κ × String)) : List (String × Json) :=
  entries.map fun (key, text) => (name key, .string text)

/-- Entries with new keys come after those that were decoded before. -/
theorem decodeEntries_entryMembers (named : ∀ key, ofName? (name key) = some key) (remaining : Nat)
    (map : OrderedMap κ String) (rest : List (κ × String))
    (unique : ((map.entries ++ rest).map Prod.fst).Nodup) :
    decodeEntries (decodeName known ofName?) (decodeString remaining) OrderedMap.insert map
      (memberDrafts (entryMembers name rest)) = .ok ⟨map.entries ++ rest, unique⟩ := by
  induction rest generalizing map with
  | nil => simp [entryMembers, memberDrafts, decodeEntries]
  | cons entry rest inductionHypothesis =>
      obtain ⟨key, text⟩ := entry
      have fresh : key ∉ map.entries.map Prod.fst := by
        rw [List.map_append, List.nodup_append] at unique
        exact fun member => unique.2.2 key member key (by simp) rfl
      have added : (map.insert key text).entries = map.entries ++ [(key, text)] :=
        setEntry_of_fresh fresh
      have whole : (map.insert key text).entries ++ rest = map.entries ++ (key, text) :: rest := by
        rw [added, List.append_assoc, List.singleton_append]
      have others := inductionHypothesis (map.insert key text) (whole ▸ unique)
      have decodesKey : decodeName known ofName? (name key) = .ok key := by
        rw [decodeName, named key]
      simp only [whole, entryMembers] at others
      simp [entryMembers, memberDrafts, decodeEntries, nameOf, Draft.text?, draft, decodesKey,
        decodeString, decodeStringAs, bind, Except.bind, others]

/-- A map is decoded entry by entry. -/
theorem decodes_map {limit : Nat} (named : ∀ key, ofName? (name key) = some key)
    (map : OrderedMap κ String) :
    Decodes limit (decodeMap (decodeName known ofName?) decodeString .empty OrderedMap.insert)
      (.object (entryMembers name map.entries)) map where
  tidy := by
    have injective : Function.Injective name := by
      have found : ofName? ∘ name = some := funext named
      exact Function.Injective.of_comp (f := ofName?) (found ▸ Option.some_injective κ)
    have keys : (entryMembers name map.entries).map Prod.fst =
        (map.entries.map Prod.fst).map name := by
      simp [entryMembers]
    exact .object (keys ▸ map.unique.map injective)
      (List.forall_mem_map.mpr fun entry _ => .string entry.2)
  decodes := by
    intro remaining fits _
    rw [nesting] at fits
    rw [draft, decodeMap, enter_of_lt fits]
    simp only [bind, Except.bind]
    rw [decodeEntries_entryMembers named _ .empty map.entries map.unique]
    rfl

end Maps

section Records

variable {ρ : Type} {limit : Nat}

/-- Whether a field of a record takes a value, which changes the record. -/
structure RecordField.Takes (limit : Nat) (field : RecordField ρ) (value : Json) (change : ρ → ρ) :
    Prop where
  tidy : value.IsTidy
  decodes : ∀ remaining record, value.nesting < remaining → remaining ≤ limit →
    field.decode remaining value.draft record = .ok (change record)

theorem Decodes.optional {α : Type} {name : String} {decode : Decoder α} {set : ρ → α → ρ}
    {value : Json} {result : α} (reads : Decodes limit decode value result) :
    (RecordField.optional name decode set).Takes limit value fun record => set record result where
  tidy := reads.tidy
  decodes remaining record fits bounded := by
    rw [RecordField.optional]
    simp only [reads.decodes remaining fits bounded, Except.map]

theorem Decodes.needed {α : Type} {name : String} {decode : Decoder α} {set : ρ → α → ρ}
    {value : Json} {result : α} (reads : Decodes limit decode value result) :
    (RecordField.needed name decode set).Takes limit value fun record => set record result := by
  have takes : (RecordField.optional name decode set).Takes limit value _ := reads.optional
  exact ⟨takes.tidy, takes.decodes⟩

/-- The changes that the members of an object make to a record, each of them being taken by the field
of its name, in order. -/
inductive FieldsTake (limit : Nat) :
    List (RecordField ρ) → List (String × Json) → ρ → ρ → Prop where
  /-- No field takes no member. -/
  | nil (record : ρ) : FieldsTake limit [] [] record record
  /-- A field takes a member before the others. -/
  | cons {field : RecordField ρ} {fields : List (RecordField ρ)} {value : Json}
      {members : List (String × Json)} {change : ρ → ρ} {record last : ρ}
      (takes : field.Takes limit value change)
      (others : FieldsTake limit fields members (change record) last) :
      FieldsTake limit (field :: fields) ((field.name, value) :: members) record last

/-- Members that fields take have the names of these, and tidy values. -/
theorem FieldsTake.isTidy {fields : List (RecordField ρ)} {members : List (String × Json)}
    {record last : ρ} (takes : FieldsTake limit fields members record last)
    (distinct : (fields.map RecordField.name).Nodup) : (Json.object members).IsTidy := by
  have names : members.map Prod.fst = fields.map RecordField.name ∧
      ∀ member ∈ members, member.2.IsTidy := by
    clear distinct
    induction takes with
    | nil => simp
    | cons takes others inductionHypothesis =>
        exact ⟨congrArg (_ :: ·) inductionHypothesis.1,
          List.forall_mem_cons.mpr ⟨takes.tidy, inductionHypothesis.2⟩⟩
  exact .object (names.1 ▸ distinct) names.2

/-- A field is found by its name. -/
theorem find?_field {all : List (RecordField ρ)} {field : RecordField ρ}
    (distinct : (all.map RecordField.name).Nodup) (member : field ∈ all) :
    (all.find? fun other => other.name == field.name) = some field := by
  obtain ⟨before, after, rfl⟩ := List.append_of_mem member
  rw [List.map_append, List.nodup_append] at distinct
  have notBefore : ∀ other ∈ before, ¬ (other.name == field.name) = true := by
    intro other earlier same
    exact distinct.2.2 other.name (List.mem_map_of_mem earlier) field.name (by simp)
      (beq_iff_eq.mp same)
  rw [List.find?_append, List.find?_eq_none.mpr notBefore, List.find?_cons_of_pos (by simp)]
  rfl

/-- The members are decoded one after the other, and all fields have been seen then. -/
theorem decodeMembers_of_take {all fields : List (RecordField ρ)} {members : List (String × Json)}
    {record last : ρ} {remaining : Nat} {seen : List String}
    (distinct : (all.map RecordField.name).Nodup) (among : ∀ field ∈ fields, field ∈ all)
    (fresh : ((fields.map RecordField.name).reverse ++ seen).Nodup)
    (takes : FieldsTake limit fields members record last)
    (fits : nestingOfMembers members < remaining) (bounded : remaining ≤ limit) :
    decodeMembers all remaining (memberDrafts members) seen record =
      .ok (last, (fields.map RecordField.name).reverse ++ seen) := by
  induction takes generalizing seen with
  | nil record => rfl
  | @cons field fields value members change record last takes others inductionHypothesis =>
      obtain ⟨isField, areFields⟩ := List.forall_mem_cons.mp among
      rw [nestingOfMembers, Nat.max_lt] at fits
      rw [List.map_cons, List.reverse_cons, List.append_assoc, List.singleton_append] at fresh ⊢
      have unseen : seen.contains field.name = false := by
        have distinctSeen := (List.nodup_append.mp fresh).2.1
        simpa using (List.nodup_cons.mp distinctSeen).1
      rw [memberDrafts, decodeMembers]
      simp only [nameOf, Draft.text?, bind, Except.bind, find?_field distinct isField, unseen,
        takes.decodes remaining record fits.1 bounded]
      exact inductionHypothesis areFields fresh fits.2

/-- A record is decoded from the object that has a member for each of its fields, in order. -/
theorem decodes_record {name : String} {fields : List (RecordField ρ)} {start last : ρ}
    {members : List (String × Json)} (distinct : (fields.map RecordField.name).Nodup)
    (takes : FieldsTake limit fields members start last) :
    Decodes limit (decodeRecord name fields start) (.object members) last := by
  refine ⟨takes.isTidy distinct, fun remaining fits bounded => ?_⟩
  rw [nesting] at fits
  have fresh : ((fields.map RecordField.name).reverse ++ []).Nodup := by
    rw [List.append_nil]
    exact distinct.perm (List.reverse_perm _).symm
  have decoded : decodeMembers fields (remaining - 1) (memberDrafts members) [] start = .ok _ :=
    decodeMembers_of_take distinct (fun _ member => member) fresh takes (by omega) (by omega)
  have given : (fields.find? fun field => field.required &&
      !((fields.map RecordField.name).reverse ++ []).contains field.name) = none := by
    rw [List.find?_eq_none]
    intro field member
    simp [List.mem_map_of_mem member]
  rw [draft, decodeRecord, enter_of_lt fits]
  simp only [bind, Except.bind, decoded, finish, if_pos, given]

end Records

/-- A written value is decoded from its text if it does not nest too deeply. -/
theorem decodeText_compactText {α : Type} {decode : Decoder α} {value : Json} {result : α}
    (reads : Decodes nestingLimit decode value result) (fits : value.nesting < nestingLimit) :
    decodeText decode value.compactText = .ok result := by
  rw [decodeText, compactText, String.toList_ofList, read_compact reads.tidy]
  simp only [bind, Except.bind, reads.decodes nestingLimit fits (Nat.le_refl _)]
  rfl

end Sbom.Json
