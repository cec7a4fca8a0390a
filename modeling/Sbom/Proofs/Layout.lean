import Mathlib.Data.List.DropRight
import Sbom.Proofs.Quoting

/-!
# Reading written values back

A layout says which blanks a written value has between its tokens. Whatever they are, the reader
gets the value back that was written, with the members of every object in their order. The pretty
form and the compact one are the two layouts in use.
-/

namespace Sbom.Json

/-- Whether all numbers of a value are natural numbers, and no object in it has a key twice. -/
inductive IsTidy : Json → Prop where
  /-- The null value. -/
  | null : IsTidy .null
  /-- A truth value. -/
  | bool (value : Bool) : IsTidy (.bool value)
  /-- A natural number. -/
  | nat (value : Nat) : IsTidy (.nat value)
  /-- A string. -/
  | string (value : String) : IsTidy (.string value)
  /-- An array of such values. -/
  | array {items : List Json} (inside : ∀ item ∈ items, item.IsTidy) : IsTidy (.array items)
  /-- An object of such values with distinct keys. -/
  | object {members : List (String × Json)} (distinct : (members.map Prod.fst).Nodup)
      (inside : ∀ member ∈ members, member.2.IsTidy) : IsTidy (.object members)

mutual

/-- The draft of a value that is there as a whole. -/
def draft : Json → Draft
  | .null => .null
  | .bool value => .bool value
  | .number value => .number value
  | .string value => .string (some value)
  | .array items => .array (drafts items) true
  | .object members => .object (memberDrafts members) true

/-- The drafts of several values. -/
def drafts : List Json → List Draft
  | [] => []
  | item :: rest => draft item :: drafts rest

/-- The drafts of the keys and values of several members. -/
def memberDrafts : List (String × Json) → List (Draft × Draft)
  | [] => []
  | (key, value) :: rest => (.string (some key), draft value) :: memberDrafts rest

end

mutual

/-- The draft of a value has that value. -/
theorem value?_draft : (value : Json) → value.draft.value? = some value
  | .null => rfl
  | .bool _ => rfl
  | .number _ => rfl
  | .string _ => rfl
  | .array items => by simp [draft, Draft.value?, values?_drafts items]
  | .object members => by simp [draft, Draft.value?, members?_memberDrafts members]

theorem values?_drafts : (items : List Json) → Draft.values? (drafts items) = some items
  | [] => rfl
  | item :: rest => by simp [drafts, Draft.values?, value?_draft item, values?_drafts rest]

theorem members?_memberDrafts :
    (members : List (String × Json)) → Draft.members? (memberDrafts members) = some members
  | [] => rfl
  | (key, value) :: rest => by
    simp [memberDrafts, Draft.members?, Draft.text?, value?_draft value, members?_memberDrafts rest]

end

section Blanks

variable {blank text rest : List Char}

theorem skipSpaces_append (isBlank : ∀ c ∈ blank, isSpace c = true) :
    skipSpaces (blank ++ text) = skipSpaces text :=
  List.dropWhile_append_of_pos isBlank

theorem skipSpaces_cons {c : Char} (noSpace : isSpace c = false) :
    skipSpaces (c :: rest) = c :: rest :=
  List.dropWhile_cons_of_neg (by simp [noSpace])

theorem skipSpaces_skipSpaces : skipSpaces (skipSpaces text) = skipSpaces text :=
  List.dropWhile_idempotent _ _

/-- Blanks before a value do not count. -/
theorem readValue_congr {fuel : Nat} {other : List Char}
    (same : skipSpaces text = skipSpaces other) : readValue fuel text = readValue fuel other := by
  cases fuel with
  | zero => rw [readValue, readValue]
  | succ fuel => rw [readValue, readValue, same]

theorem readValue_blank {fuel : Nat} (isBlank : ∀ c ∈ blank, isSpace c = true) :
    readValue fuel (blank ++ text) = readValue fuel text :=
  readValue_congr (skipSpaces_append isBlank)

/-- No value starts with a closing mark. -/
theorem readValue_closing {fuel : Nat} {c : Char} (mark : c = ']' ∨ c = '\x7d')
    (next : skipSpaces text = c :: rest) : readValue fuel text = (.cut, none) := by
  cases fuel with
  | zero => rw [readValue]
  | succ fuel =>
      rw [readValue, next]
      rcases mark with rfl | rfl <;> rfl

/-- A number ends where there is nothing but blanks. -/
theorem endsNumber_of_blank (isBlank : ∀ c ∈ blank, isSpace c = true) : EndsNumber blank := by
  cases blank with
  | nil => intro c none; cases none
  | cons first others =>
      intro c isFirst
      cases isFirst
      have space := isBlank first List.mem_cons_self
      simp only [isSpace, Bool.or_eq_true, beq_iff_eq] at space
      rcases space with ((rfl | rfl) | rfl) | rfl <;> decide

/-- A number ends where, blanks aside, a comma or a closing mark stands. -/
theorem endsNumber_of_mark {c : Char} (isBlank : ∀ c ∈ blank, isSpace c = true)
    (mark : c = ',' ∨ c = ']' ∨ c = '\x7d') : EndsNumber (blank ++ c :: rest) := by
  cases blank with
  | nil =>
      intro d isFirst
      cases isFirst
      rcases mark with rfl | rfl | rfl <;> decide
  | cons first others =>
      have ends := endsNumber_of_blank isBlank
      exact fun d isFirst => ends d isFirst

end Blanks

section Values

variable {fuel : Nat} {rest tail : List Char}

theorem readValue_quote (text : String) :
    readValue (fuel + 1) (quote text ++ rest) = (.string (some text), some rest) := by
  have read := readString_quote text rest
  simp [readValue, quote, skipSpaces, isSpace, read]

theorem readValue_null :
    readValue (fuel + 1) ('n' :: 'u' :: 'l' :: 'l' :: rest) = (.null, some rest) := by
  rfl

theorem readValue_bool (value : Bool) :
    readValue (fuel + 1) (boolText value ++ rest) = (.bool value, some rest) := by
  cases value <;> rfl

theorem readValue_nat (value : Nat) (ends : EndsNumber rest) :
    readValue (fuel + 1) (Text.decimal value ++ rest) = (.number (.ofNat value), some rest) := by
  have read := readNumber_decimal value ends
  obtain ⟨first, others, spelled, -⟩ := Text.decimal_eq_cons value
  have digit : Text.isDigit first = true :=
    Text.isDigit_of_mem_decimal (spelled ▸ List.mem_cons_self)
  rw [spelled, List.cons_append] at read ⊢
  have noSpace : isSpace first = false := by
    refine Bool.eq_false_iff.mpr fun space => ?_
    simp only [isSpace, Bool.or_eq_true, beq_iff_eq] at space
    rcases space with ((rfl | rfl) | rfl) | rfl <;> exact absurd digit (by decide)
  have notMark : first ≠ '\x22' ∧ first ≠ '[' ∧ first ≠ '\x7b' ∧ first ≠ '-' := by
    refine ⟨?_, ?_, ?_, ?_⟩ <;> (rintro rfl; exact absurd digit (by decide))
  simp [readValue, skipSpaces_cons noSpace, notMark, digit, read]

/-- Items that are read to their end make an array. -/
theorem readValue_array {text : List Char} {items : List Draft}
    (read : readItems fuel text = (items, some tail)) :
    readValue (fuel + 1) ('[' :: text) = (.array items true, some tail) := by
  have notEmpty : ∀ rest, skipSpaces text ≠ ']' :: rest := by
    intro rest next
    cases fuel with
    | zero => cases read
    | succ fuel =>
        rw [readItems, readValue_closing (.inl rfl) next] at read
        cases read
  have body : readItems fuel (skipSpaces text) = (items, some tail) := by
    cases fuel with
    | zero => cases read
    | succ fuel =>
        rw [readItems, readValue_congr skipSpaces_skipSpaces]
        rwa [readItems] at read
  rw [readValue, skipSpaces_cons rfl]
  simp only [body]

/-- Members that are read to their end make an object. -/
theorem readValue_object {text : List Char} {members : List (Draft × Draft)}
    (read : readMembers fuel text = (members, some tail)) :
    readValue (fuel + 1) ('\x7b' :: text) = (.object members true, some tail) := by
  have notEmpty : ∀ rest, skipSpaces text ≠ '\x7d' :: rest := by
    intro rest next
    cases fuel with
    | zero => cases read
    | succ fuel =>
        rw [readMembers, readValue_closing (.inr rfl) next] at read
        cases read
  have body : readMembers fuel (skipSpaces text) = (members, some tail) := by
    cases fuel with
    | zero => cases read
    | succ fuel =>
        rw [readMembers, readValue_congr skipSpaces_skipSpaces]
        rwa [readMembers] at read
  rw [readValue, skipSpaces_cons rfl]
  simp only [body]

/-- An item is the last one before a closing bracket. -/
theorem readItems_last {text : List Char} {item : Draft}
    (read : readValue fuel text = (item, some rest)) (next : skipSpaces rest = ']' :: tail) :
    readItems (fuel + 1) text = ([item], some tail) := by
  rw [readItems, read]
  simp only [next]

/-- Before a comma there is an item, and after it there are others. -/
theorem readItems_comma {text others : List Char} {item : Draft} {items : List Draft}
    (read : readValue fuel text = (item, some rest)) (next : skipSpaces rest = ',' :: others)
    (more : readItems fuel others = (items, some tail)) :
    readItems (fuel + 1) text = (item :: items, some tail) := by
  rw [readItems, read]
  simp only [next, more]

section Members

variable {text afterColon : List Char} {key : Option String} {afterKey : List Char} {value : Draft}

/-- A member is the last one before a closing brace. -/
theorem readMembers_last (readKey : readValue fuel text = (.string key, some afterKey))
    (colon : skipSpaces afterKey = ':' :: afterColon)
    (read : readValue fuel afterColon = (value, some rest))
    (next : skipSpaces rest = '\x7d' :: tail) :
    readMembers (fuel + 1) text = ([(.string key, value)], some tail) := by
  rw [readMembers, readKey]
  simp only [colon, read, next]

/-- Before a comma there is a member, and after it there are others. -/
theorem readMembers_comma {others : List Char} {members : List (Draft × Draft)}
    (readKey : readValue fuel text = (.string key, some afterKey))
    (colon : skipSpaces afterKey = ':' :: afterColon)
    (read : readValue fuel afterColon = (value, some rest)) (next : skipSpaces rest = ',' :: others)
    (more : readMembers fuel others = (members, some tail)) :
    readMembers (fuel + 1) text = ((.string key, value) :: members, some tail) := by
  rw [readMembers, readKey]
  simp only [colon, read, next, more]

end Members

end Values

/-- The blanks between the tokens of a written value. -/
structure Layout where
  /-- What stands before a token at a depth: an item or key, or a closing mark. -/
  gap : Nat → List Char
  /-- What stands after a colon. -/
  colonGap : List Char
  /-- There are only blanks before a token. -/
  gap_blank : ∀ depth, ∀ c ∈ gap depth, isSpace c = true
  /-- There are only blanks after a colon. -/
  colonGap_blank : ∀ c ∈ colonGap, isSpace c = true

namespace Layout

variable (layout : Layout)

mutual

/-- The text of a value at a depth. -/
def render (depth : Nat) : Json → List Char
  | .null => ['n', 'u', 'l', 'l']
  | .bool value => boolText value
  | .number value => value.text
  | .string value => quote value
  | .array [] => ['[', ']']
  | .array (item :: rest) =>
    '[' :: (layout.gap (depth + 1) ++ (render (depth + 1) item ++
      (furtherItems (depth + 1) rest ++ (layout.gap depth ++ [']']))))
  | .object [] => ['\x7b', '\x7d']
  | .object ((key, value) :: rest) =>
    '\x7b' :: (layout.gap (depth + 1) ++ (quote key ++ ':' :: (layout.colonGap ++
      (render (depth + 1) value ++
        (furtherMembers (depth + 1) rest ++ (layout.gap depth ++ ['\x7d']))))))

/-- The text of the items after the first one. -/
def furtherItems (depth : Nat) : List Json → List Char
  | [] => []
  | item :: rest =>
    ',' :: (layout.gap depth ++ (render depth item ++ furtherItems depth rest))

/-- The text of the members after the first one. -/
def furtherMembers (depth : Nat) : List (String × Json) → List Char
  | [] => []
  | (key, value) :: rest =>
    ',' :: (layout.gap depth ++ (quote key ++ ':' :: (layout.colonGap ++
      (render depth value ++ furtherMembers depth rest))))

end

variable {layout : Layout}

/-- Whether the written form of a value is read as the value, with enough fuel and the text after it
not going on with a number. -/
def Reads (layout : Layout) (depth : Nat) (value : Json) : Prop :=
  ∀ fuel rest, 2 * (layout.render depth value).length + 1 ≤ fuel → EndsNumber rest →
    readValue fuel (layout.render depth value ++ rest) = (value.draft, some rest)

/-- Blanks before a value do not keep it from being read. -/
theorem Reads.after {depth fuel : Nat} {value : Json} {blank rest : List Char}
    (reads : layout.Reads depth value) (isBlank : ∀ c ∈ blank, isSpace c = true)
    (enough : 2 * (layout.render depth value).length + 1 ≤ fuel) (ends : EndsNumber rest) :
    readValue fuel (blank ++ (layout.render depth value ++ rest)) = (value.draft, some rest) := by
  rw [readValue_blank isBlank]
  exact reads fuel rest enough ends

section Following

variable (layout : Layout) (depth outer : Nat) (tail : List Char)

/-- After an item the text goes on with a comma or the closing bracket. -/
theorem endsNumber_furtherItems (items : List Json) :
    EndsNumber (layout.furtherItems depth items ++ (layout.gap outer ++ ']' :: tail)) := by
  cases items with
  | nil => exact endsNumber_of_mark (layout.gap_blank outer) (.inr (.inl rfl))
  | cons item rest =>
      exact endsNumber_of_mark (fun _ none => absurd none List.not_mem_nil) (.inl rfl)

/-- After a member the text goes on with a comma or the closing brace. -/
theorem endsNumber_furtherMembers (members : List (String × Json)) :
    EndsNumber (layout.furtherMembers depth members ++ (layout.gap outer ++ '\x7d' :: tail)) := by
  cases members with
  | nil => exact endsNumber_of_mark (layout.gap_blank outer) (.inr (.inr rfl))
  | cons member rest =>
      exact endsNumber_of_mark (fun _ none => absurd none List.not_mem_nil) (.inl rfl)

end Following

mutual

/-- A value is read back from its text. -/
theorem reads_value : (value : Json) → value.IsTidy → ∀ depth, layout.Reads depth value
  | .null, _, _, fuel + 1, _, _, _ => readValue_null
  | .bool value, _, _, fuel + 1, _, _, _ => readValue_bool value
  | .number _, .nat value, _, fuel + 1, rest, _, ends => by
    have text : (Number.ofNat value).text = Text.decimal value := by
      simp [Number.text, Number.ofNat]
    rw [render, text]
    exact readValue_nat value ends
  | .string value, _, _, fuel + 1, _, _, _ => readValue_quote value
  | .array [], _, _, fuel + 1, _, _, _ => rfl
  | .array (item :: items), .array inside, depth, fuel + 1, rest, enough, _ => by
    obtain ⟨itemTidy, itemsTidy⟩ := List.forall_mem_cons.mp inside
    simp only [render, List.length_cons, List.length_append] at enough
    have read := reads_items items itemsTidy (depth + 1) item (reads_value item itemTidy _) fuel
      depth rest (by rw [List.length_append]; omega)
    simpa [render, draft, drafts] using readValue_array read
  | .object [], _, _, fuel + 1, _, _, _ => rfl
  | .object ((key, value) :: members), .object _ inside, depth, fuel + 1, rest, enough, _ => by
    obtain ⟨valueTidy, membersTidy⟩ := List.forall_mem_cons.mp inside
    simp only [render, List.length_cons, List.length_append] at enough
    have read := reads_members members membersTidy (depth + 1) key value
      (reads_value value valueTidy _) fuel depth rest
      (by simp only [List.length_cons, List.length_append]; omega)
    simpa [render, draft, memberDrafts] using readValue_object read
  | _, _, _, 0, _, enough, _ => by omega

/-- Items are read back to the closing bracket. -/
theorem reads_items : (items : List Json) → (∀ item ∈ items, item.IsTidy) → ∀ depth item,
    layout.Reads depth item → ∀ fuel outer tail,
    2 * (layout.render depth item ++ layout.furtherItems depth items).length + 2 ≤ fuel →
    readItems fuel (layout.gap depth ++ (layout.render depth item ++
      (layout.furtherItems depth items ++ (layout.gap outer ++ ']' :: tail)))) =
        (item.draft :: drafts items, some tail)
  | [], _, depth, item, reads, fuel + 1, outer, tail, enough => by
    rw [List.length_append] at enough
    have itemEnough : 2 * (layout.render depth item).length + 1 ≤ fuel := by omega
    have first := reads.after (layout.gap_blank depth) itemEnough
      (layout.endsNumber_furtherItems depth outer tail [])
    exact readItems_last first (skipSpaces_append (layout.gap_blank outer))
  | next :: others, tidy, depth, item, reads, fuel + 1, outer, tail, enough => by
    obtain ⟨nextTidy, othersTidy⟩ := List.forall_mem_cons.mp tidy
    simp only [furtherItems, List.length_cons, List.length_append] at enough
    have itemEnough : 2 * (layout.render depth item).length + 1 ≤ fuel := by omega
    have first := reads.after (layout.gap_blank depth) itemEnough
      (layout.endsNumber_furtherItems depth outer tail (next :: others))
    have more := reads_items others othersTidy depth next (reads_value next nextTidy depth) fuel
      outer tail (by rw [List.length_append]; omega)
    refine readItems_comma first ?_ more
    simp [furtherItems, skipSpaces_cons, isSpace]
  | _, _, _, _, _, 0, _, _, enough => by omega

/-- Members are read back to the closing brace. -/
theorem reads_members : (members : List (String × Json)) →
    (∀ member ∈ members, member.2.IsTidy) → ∀ depth key value,
    layout.Reads depth value → ∀ fuel outer tail,
    2 * (quote key ++ ':' :: (layout.render depth value ++
      layout.furtherMembers depth members)).length + 2 ≤ fuel →
    readMembers fuel (layout.gap depth ++ (quote key ++ ':' :: (layout.colonGap ++
      (layout.render depth value ++ (layout.furtherMembers depth members ++
        (layout.gap outer ++ '\x7d' :: tail)))))) =
        ((.string (some key), value.draft) :: memberDrafts members, some tail)
  | [], _, depth, key, value, reads, fuel + 2, outer, tail, enough => by
    simp only [List.length_append, List.length_cons] at enough
    have valueEnough : 2 * (layout.render depth value).length + 1 ≤ fuel + 1 := by omega
    have first := reads.after layout.colonGap_blank valueEnough
      (layout.endsNumber_furtherMembers depth outer tail [])
    exact readMembers_last ((readValue_blank (layout.gap_blank depth)).trans (readValue_quote key))
      (skipSpaces_cons rfl) first (skipSpaces_append (layout.gap_blank outer))
  | (nextKey, next) :: others, tidy, depth, key, value, reads, fuel + 2, outer, tail, enough => by
    obtain ⟨nextTidy, othersTidy⟩ := List.forall_mem_cons.mp tidy
    simp only [furtherMembers, List.length_cons, List.length_append] at enough
    have valueEnough : 2 * (layout.render depth value).length + 1 ≤ fuel + 1 := by omega
    have first := reads.after layout.colonGap_blank valueEnough
      (layout.endsNumber_furtherMembers depth outer tail ((nextKey, next) :: others))
    have more := reads_members others othersTidy depth nextKey next
      (reads_value next nextTidy depth) (fuel + 1) outer tail
      (by simp only [List.length_cons, List.length_append]; omega)
    refine readMembers_comma
      ((readValue_blank (layout.gap_blank depth)).trans (readValue_quote key))
      (skipSpaces_cons rfl) first ?_ more
    simp [furtherMembers, skipSpaces_cons, isSpace]
  | _, _, _, _, _, _, 0, _, _, enough => by omega
  | _, _, _, _, _, _, 1, _, _, enough => by
    simp only [List.length_append, List.length_cons] at enough
    omega

end

/-- A written value is read as a whole, also with blanks after it. -/
theorem read_render {value : Json} (tidy : value.IsTidy) {blank : List Char}
    (isBlank : ∀ c ∈ blank, isSpace c = true) :
    read (layout.render 0 value ++ blank) = (value.draft, true) := by
  have enough : 2 * (layout.render 0 value).length + 1 ≤
      2 * (layout.render 0 value ++ blank).length + 1 := by
    rw [List.length_append]
    omega
  have whole : skipSpaces blank = [] := List.dropWhile_eq_nil_iff.mpr isBlank
  rw [read, reads_value value tidy 0 _ blank enough (endsNumber_of_blank isBlank)]
  simp only [whole, List.isEmpty_nil]

/-- A written value is the one value of its text, also with blanks after it. -/
theorem parse?_render {value : Json} (tidy : value.IsTidy) {blank : List Char}
    (isBlank : ∀ c ∈ blank, isSpace c = true) :
    parse? (layout.render 0 value ++ blank) = some value := by
  rw [parse?, read_render tidy isBlank]
  exact value?_draft value

/-- The layout of indented text. -/
def pretty : Layout where
  gap := lineBreak
  colonGap := [' ']
  gap_blank depth c member := by
    rcases List.mem_cons.mp member with rfl | space
    · rfl
    · rw [List.eq_of_mem_replicate space]
      rfl
  colonGap_blank := List.forall_mem_singleton.mpr rfl

mutual

theorem flatten_prettyPieces (depth : Nat) :
    (value : Json) → (prettyPieces depth value).flatten = pretty.render depth value
  | .null => rfl
  | .bool value => by simp [prettyPieces, render]
  | .number value => by simp [prettyPieces, render]
  | .string value => by simp [prettyPieces, render]
  | .array [] => rfl
  | .array (item :: rest) => by
    simp [prettyPieces, render, flatten_prettyPieces (depth + 1) item,
      flatten_prettyItems (depth + 1) rest, pretty]
  | .object [] => rfl
  | .object ((key, value) :: rest) => by
    simp [prettyPieces, render, flatten_prettyPieces (depth + 1) value,
      flatten_prettyMembers (depth + 1) rest, pretty]

theorem flatten_prettyItems (depth : Nat) :
    (items : List Json) → (prettyItems depth items).flatten = pretty.furtherItems depth items
  | [] => rfl
  | item :: rest => by
    simp [prettyItems, furtherItems, flatten_prettyPieces depth item,
      flatten_prettyItems depth rest, pretty]

theorem flatten_prettyMembers (depth : Nat) : (members : List (String × Json)) →
    (prettyMembers depth members).flatten = pretty.furtherMembers depth members
  | [] => rfl
  | (key, value) :: rest => by
    simp [prettyMembers, furtherMembers, flatten_prettyPieces depth value,
      flatten_prettyMembers depth rest, pretty]

end

/-- The layout of text without blanks. -/
def compact : Layout where
  gap _ := []
  colonGap := []
  gap_blank _ _ none := absurd none List.not_mem_nil
  colonGap_blank _ none := absurd none List.not_mem_nil

mutual

theorem compact_eq_render (depth : Nat) :
    (value : Json) → value.compact = compact.render depth value
  | .null => rfl
  | .bool value => rfl
  | .number value => rfl
  | .string value => rfl
  | .array [] => rfl
  | .array (item :: rest) => by
    simp [Json.compact, compactItems, render, compact_eq_render (depth + 1) item,
      compactItems_eq_furtherItems (depth + 1) rest, compact]
  | .object [] => rfl
  | .object ((key, value) :: rest) => by
    simp [Json.compact, compactMembers, render, compact_eq_render (depth + 1) value,
      compactMembers_eq_furtherMembers (depth + 1) rest, compact]

theorem compactItems_eq_furtherItems (depth : Nat) : (items : List Json) →
    compactItems false items = compact.furtherItems depth items
  | [] => rfl
  | item :: rest => by
    simp [compactItems, furtherItems, compact_eq_render depth item,
      compactItems_eq_furtherItems depth rest, compact]

theorem compactMembers_eq_furtherMembers (depth : Nat) : (members : List (String × Json)) →
    compactMembers false members = compact.furtherMembers depth members
  | [] => rfl
  | (key, value) :: rest => by
    simp [compactMembers, furtherMembers, compact_eq_render depth value,
      compactMembers_eq_furtherMembers depth rest, compact]

end

end Layout

/-- Indented text is read as the value it was written from, also with blanks after it. -/
theorem parse?_pretty {value : Json} (tidy : value.IsTidy) {blank : List Char}
    (isBlank : ∀ c ∈ blank, isSpace c = true) : parse? (value.pretty ++ blank) = some value := by
  rw [pretty, Layout.flatten_prettyPieces]
  exact Layout.parse?_render tidy isBlank

/-- Text without blanks is read as a whole. -/
theorem read_compact {value : Json} (tidy : value.IsTidy) :
    read value.compact = (value.draft, true) := by
  have whole : read (Layout.compact.render 0 value ++ []) = (value.draft, true) :=
    Layout.read_render tidy (by simp)
  rwa [List.append_nil, ← Layout.compact_eq_render] at whole

end Sbom.Json
