import Sbom.Proofs.Yaml.Lines
import Sbom.Yaml.Token

/-!
# Reading written lines

The reader of tokens goes over written text entry by entry. Between two entries it waits for no key
and stands at the margin of the next one; over the name of an entry and the colon it takes a step
each, and another one over a value on the same line. What an entry adds to the tokens depends on the
open blocks only.
-/

namespace Sbom.Yaml

open TokenState

/-! ## Runs -/

/-- Whether a given number of steps leads the reader from states of one kind to states of another. -/
def Leads (count : Nat) (before after : TokenState → Prop) : Prop :=
  ∀ state, before state → ∃ next, after next ∧
    ∀ fuel, run none (count + fuel) state = run none fuel next

namespace Leads

variable {count more : Nat} {before middle after : TokenState → Prop}

theorem trans (first : Leads count before middle) (second : Leads more middle after) :
    Leads (count + more) before after := by
  intro state holds
  obtain ⟨between, reached, runs⟩ := first state holds
  obtain ⟨next, arrived, runsOn⟩ := second between reached
  exact ⟨next, arrived, fun fuel => by rw [Nat.add_assoc, runs, runsOn]⟩

theorem mono {reached : TokenState → Prop} (leads : Leads count before after)
    (weaker : ∀ state, after state → reached state) : Leads count before reached := by
  intro state holds
  obtain ⟨next, arrived, runs⟩ := leads state holds
  exact ⟨next, weaker next arrived, runs⟩

/-- One step that does not end the text. -/
theorem of_step (steps : ∀ state, before state → ∃ next, after next ∧ next.ended = false ∧
    state.step? = some next) : Leads 1 before after := by
  intro state holds
  obtain ⟨next, arrived, goesOn, stepped⟩ := steps state holds
  refine ⟨next, arrived, fun fuel => ?_⟩
  rw [Nat.add_comm, run, stepped]
  simp [goesOn]

end Leads

/-! ## States -/

/-- What is common to the states of the reader outside flow collections before the end: the open
blocks, the tokens so far and the pending key. -/
structure Standing (blocks : List Nat) (tokens : List Token) (key : Option PendingKey)
    (state : TokenState) : Prop where
  /-- The open blocks. -/
  blocks_eq : state.blocks = blocks
  /-- The tokens so far. -/
  tokens_eq : state.tokens = tokens
  /-- The pending key. -/
  key_eq : state.blockKey = key
  /-- The reader is in no flow collection. -/
  noFlow : state.flowKeys = []
  /-- The text goes on. -/
  goesOn : state.ended = false

/-- The reader stands before an entry: after the margin of the given width comes the given text. -/
structure AtEntry (blocks : List Nat) (width : Nat) (body : List Char) (tokens : List Token)
    (state : TokenState) : Prop extends Standing blocks tokens none state where
  /-- The space before the entry ends at its margin. -/
  atMargin : ∃ place, place.column = width ∧
    skipSpace false false state.keyAllowed state.place state.rest = (place, true, body)

/-- The reader stands at the colon after the name of an entry, which is its pending key. -/
structure AtColon (blocks : List Nat) (width : Nat) (name rest : List Char) (tokens : List Token)
    (state : TokenState) : Prop where
  /-- The pending key is the name, and it can still become a key. -/
  pending : ∃ key : PendingKey, key.index = tokens.length ∧ key.place.column = width ∧
    key.isStale state.place = false ∧
    Standing blocks (tokens ++ [.scalar (String.ofList name) .plain]) (some key) state
  /-- The name is not empty. -/
  further : width < state.place.column
  /-- No key may start at the colon. -/
  noKey : state.keyAllowed = false
  /-- The colon follows. -/
  rest_eq : state.rest = ':' :: rest

/-- The reader stands after the colon of an entry. -/
structure AtValue (blocks : List Nat) (width : Nat) (rest : List Char) (tokens : List Token)
    (state : TokenState) : Prop extends Standing blocks tokens none state where
  /-- The innermost block is that of the entry. -/
  within : blocks.head? = some width
  /-- The reader is further on the line than the margin. -/
  further : width < state.place.column
  /-- No key may start on the line. -/
  noKey : state.keyAllowed = false
  /-- The text after the colon. -/
  rest_eq : state.rest = rest

namespace Standing

variable {blocks : List Nat} {tokens : List Token} {state : TokenState}

theorem dropStale? (standing : Standing blocks tokens none state) : state.dropStale? = some state := by
  obtain ⟨place, rest, blocks', blockKey, flowKeys, keyAllowed, tokens', ended⟩ := state
  cases standing.key_eq
  cases standing.noFlow
  rfl

theorem dropStale?_pending {key : PendingKey} (standing : Standing blocks tokens (some key) state)
    (fresh : key.isStale state.place = false) : state.dropStale? = some state := by
  obtain ⟨place, rest, blocks', blockKey, flowKeys, keyAllowed, tokens', ended⟩ := state
  cases standing.key_eq
  cases standing.noFlow
  simp [TokenState.dropStale?, refresh?, fresh]

end Standing

/-! ## Blocks -/

/-- The open blocks that an entry at a column leaves open. -/
def keptBlocks (width : Nat) (blocks : List Nat) : List Nat :=
  blocks.dropWhile fun block => width < block

/-- Whether an entry at a column starts a block. -/
def startsBlock (width : Nat) (blocks : List Nat) : Bool :=
  (keptBlocks width blocks).head?.all fun block => block < width

/-- The open blocks at an entry. -/
def openedBlocks (width : Nat) (blocks : List Nat) : List Nat :=
  if startsBlock width blocks then width :: keptBlocks width blocks else keptBlocks width blocks

/-- The tokens for the blocks that an entry ends. -/
def endTokens (width : Nat) (blocks : List Nat) : List Token :=
  (blocks.takeWhile fun block => width < block).map fun _ => .blockEnd

/-- The tokens for the block that an entry starts. -/
def startTokens (width : Nat) (blocks : List Nat) : List Token :=
  if startsBlock width blocks then [.blockMappingStart] else []

/-- The innermost block at an entry is the one of its column. -/
theorem head?_openedBlocks (width : Nat) (blocks : List Nat) :
    (openedBlocks width blocks).head? = some width := by
  unfold openedBlocks
  split
  case isTrue => rfl
  case isFalse notStarted =>
    have notDeeper := List.head?_dropWhile_not (fun block => decide (width < block)) blocks
    cases kept : keptBlocks width blocks with
    | nil => simp [startsBlock, kept] at notStarted
    | cons block others =>
        have isHead : (blocks.dropWhile fun block => decide (width < block)).head? = some block := by
          rw [← keptBlocks, kept, List.head?_cons]
        rw [isHead] at notDeeper
        simp [startsBlock, kept] at notStarted notDeeper
        simp; omega

/-! ## Names -/

/-- Whether a text can be the name of an entry: small letters and underscores after a letter, as many
as a key may have. -/
structure IsEntryName (name : List Char) : Prop where
  /-- There is a first letter. -/
  starts : ∃ c ∈ name.head?, 97 ≤ c.toNat ∧ c.toNat ≤ 122
  /-- All characters are letters or underscores. -/
  spelled : ∀ c ∈ name, c = '_' ∨ (97 ≤ c.toNat ∧ c.toNat ≤ 122)
  /-- The colon is in reach. -/
  short : name.length ≤ keyReach

namespace IsEntryName

variable {name : List Char} (isName : IsEntryName name)
include isName

theorem isPrintedLine : IsPrintedLine name := by
  intro c member
  rcases isName.spelled c member with rfl | ⟨lower, upper⟩
  · decide
  · exact ⟨isPrintable_of_letter lower upper, isBreak_of_letter lower upper⟩

theorem isSpace_eq_false {c : Char} (member : c ∈ name) : isSpace c = false := by
  rcases isName.spelled c member with rfl | ⟨lower, upper⟩
  · decide
  · exact isSpace_of_letter lower upper

theorem startsEntry (rest : List Char) : StartsEntry (name ++ rest) := by
  obtain ⟨c, isHead, lower, upper⟩ := isName.starts
  intro d isFirst
  cases name with
  | nil => cases isHead
  | cons first others =>
      cases isHead
      cases isFirst
      exact ⟨lower, upper⟩

end IsEntryName

theorem holdsMark_of_spelled {name : List Char}
    (spelled : ∀ c ∈ name, c = '_' ∨ (97 ≤ c.toNat ∧ c.toNat ≤ 122)) (before : Char) :
    holdsMark before name = false := by
  induction name generalizing before with
  | nil => rfl
  | cons c others inductionHypothesis =>
      obtain ⟨spelledFirst, spelledOthers⟩ := List.forall_mem_cons.mp spelled
      have notMark : (c == ':') = false ∧ (c == '#') = false := by
        constructor
        all_goals
          rw [beq_eq_false_iff_ne]
          rintro rfl
          exact absurd spelledFirst (by decide)
      simp [holdsMark, notMark, inductionHypothesis spelledOthers c]

/-- The position after a name: on the same line, as many columns and bytes further as it has
characters. -/
theorem foldl_next_of_spelled {name : List Char}
    (spelled : ∀ c ∈ name, c = '_' ∨ (97 ≤ c.toNat ∧ c.toNat ≤ 122)) (place : Position) :
    name.foldl Position.next place = place.advance name.length := by
  induction name generalizing place with
  | nil => rfl
  | cons c others inductionHypothesis =>
      obtain ⟨spelledFirst, spelledOthers⟩ := List.forall_mem_cons.mp spelled
      have oneByte : c.utf8Size = 1 := by
        have ascii : c.toNat ≤ 127 := by
          rcases spelledFirst with rfl | ⟨-, upper⟩
          · decide
          · omega
        exact Char.utf8Size_eq_one_iff.mpr (UInt32.le_iff_toNat_le.mpr ascii)
      rw [List.foldl_cons, inductionHypothesis spelledOthers, Position.next, oneByte]
      simp only [Position.advance, List.length_cons, Nat.add_assoc, Nat.add_comm 1]

/-- A name is read up to the colon after it. -/
theorem readPlain_name {name rest : List Char} (isName : IsEntryName name)
    (blank : startsBlank rest = true) (least : Nat) (place : Position) :
    readPlain false least .empty place (name ++ ':' :: rest) =
      some ⟨name, place.advance name.length, ':' :: rest, false⟩ := by
  have within : InPlain 'a' name .empty least place :=
    { sameLine := rfl
      afterSpace := fun noGap => nomatch noGap
      wordLast := by
        rcases List.mem_cons.mp (List.getLast_mem (List.cons_ne_nil 'a' name)) with isFirst | member
        · rw [isFirst]
          decide
        · exact isName.isSpace_eq_false member
      indented := .inl ⟨rfl, fun c member => isName.isSpace_eq_false member⟩ }
  rw [readPlain_append name isName.isPrintedLine (holdsMark_of_spelled isName.spelled 'a') within,
    foldl_next_of_spelled isName.spelled, readPlain_colon least _ blank]
  simp [ScalarRead.prepend]

/-! ## Steps -/

/-- The state of the reader at a token after the blocks that are deeper were closed. -/
def tokenState (blocks : List Nat) (tokens : List Token) (key : Option PendingKey)
    (keyAllowed : Bool) (place : Position) (rest : List Char) : TokenState where
  place := place
  rest := rest
  keyAllowed := keyAllowed
  blocks := keptBlocks place.column blocks
  tokens := tokens ++ endTokens place.column blocks
  blockKey := key

/-- A step closes the blocks that are deeper than the next token and reads that token. -/
theorem Standing.step?_eq {blocks : List Nat} {tokens : List Token} {key : Option PendingKey}
    {state : TokenState} (standing : Standing blocks tokens key state) {place : Position}
    {keyAllowed : Bool} {rest : List Char}
    (space : skipSpace false false state.keyAllowed state.place state.rest =
      (place, keyAllowed, rest))
    (fresh : ∀ pending ∈ key, pending.isStale place = false) :
    state.step? = (tokenState blocks tokens key keyAllowed place rest).readToken?.bind
      TokenState.dropStale? := by
  obtain ⟨place', rest', blocks', blockKey, flowKeys, keyAllowed', tokens', ended⟩ := state
  obtain ⟨rfl, rfl, rfl, rfl, rfl⟩ := standing
  have next : toNextToken ⟨place', rest', blocks', blockKey, [], keyAllowed', tokens', false⟩ =
      ⟨place, rest, blocks', blockKey, [], keyAllowed, tokens', false⟩ := by
    rw [toNextToken]
    simp only [inFlow, List.isEmpty_nil, Bool.not_true]
    rw [space]
  have kept : TokenState.dropStale? ⟨place, rest, blocks', blockKey, [], keyAllowed, tokens', false⟩ =
      some ⟨place, rest, blocks', blockKey, [], keyAllowed, tokens', false⟩ := by
    cases blockKey with
    | none => rfl
    | some pending => simp [TokenState.dropStale?, refresh?, fresh pending rfl]
  rw [step?, next, kept]
  rfl

theorem goesOnBlank_of_startsBlank {rest : List Char} (notBlank : startsBlank rest = false) :
    goesOnBlank rest = false := by
  cases rest with
  | nil => rfl
  | cons d others => simp_all [startsBlank, goesOnBlank]

/-- A plain scalar starts with a character that is no mark, or with one of three marks that a blank
does not follow. -/
theorem startsPlain_of_not_reserved {c : Char} {rest : List Char}
    (notReserved : reservedStarts.contains c = false)
    (notIndicator : c = '-' ∨ c = '?' ∨ c = ':' → startsBlank rest = false)
    (notBlank : isBlank c = false) (notBreak : isBreak c = false) :
    startsPlain false c rest = true := by
  by_cases indicator : c = '-' ∨ c = '?' ∨ c = ':'
  · have goesOn := notIndicator indicator
    rcases indicator with rfl | rfl | rfl
    · simp [startsPlain, goesOnBlank_of_startsBlank goesOn]
    · simp [startsPlain, goesOn]
    · simp [startsPlain, goesOn]
  · have notGrave : c ≠ '\x60' → c.toNat ≠ 0x60 :=
      fun different same => different (Char.toNat_inj.mp same)
    have notMark : isMark c = false := by
      simp_all [isMark, isFlowMark, reservedStarts]
    simp [startsPlain, notBlank, notBreak, notMark]

/-- A token that starts with none of the marks is a plain scalar. -/
theorem readToken?_plain {state : TokenState} {c : Char} {rest : List Char}
    (noFlow : state.flowKeys = []) (rest_eq : state.rest = c :: rest)
    (notReserved : reservedStarts.contains c = false)
    (notIndicator : c = '-' ∨ c = '?' ∨ c = ':' → startsBlank rest = false)
    (inLine : state.place.column = 0 → startsDocumentMark (c :: rest) = false)
    (notBlank : isBlank c = false) (notBreak : isBreak c = false) :
    state.readToken? = state.readPlainScalar? := by
  have outside : state.inFlow = false := by rw [inFlow, noFlow]; rfl
  have noDocument : ¬ (state.place.column = 0 ∧ startsDocumentMark (c :: rest) = true) := by
    rintro ⟨start, mark⟩
    rw [inLine start] at mark
    cases mark
  have notEntry : ∀ mark, mark = '-' ∨ mark = '?' ∨ mark = ':' →
      ¬ (c = mark ∧ startsBlank rest = true) := by
    rintro mark isIndicator ⟨rfl, blank⟩
    rw [notIndicator isIndicator] at blank
    cases blank
  have plain := startsPlain_of_not_reserved notReserved notIndicator notBlank notBreak
  simp only [reservedStarts, List.contains_cons, List.contains_nil, Bool.or_false,
    Bool.or_eq_false_iff, beq_eq_false_iff_ne] at notReserved
  rw [readToken?, rest_eq]
  simp [outside, notReserved, noDocument, notEntry, plain]

section Steps

variable {blocks : List Nat} {width : Nat} {name rest : List Char} {tokens : List Token}

/-- A letter starts a plain scalar. -/
theorem readToken?_letter {state : TokenState} {c : Char} {rest : List Char}
    (noFlow : state.flowKeys = []) (rest_eq : state.rest = c :: rest) (lower : 97 ≤ c.toNat)
    (upper : c.toNat ≤ 122) : state.readToken? = state.readPlainScalar? := by
  have different : ∀ mark : Char, mark.toNat < 97 ∨ 122 < mark.toNat → c ≠ mark := by
    rintro mark outside rfl
    omega
  have notReserved : reservedStarts.contains c = false := by
    rw [← Bool.not_eq_true, List.contains_iff_mem]
    intro member
    have outside : reservedStarts.all (fun mark => mark.toNat < 97 || 122 < mark.toNat) = true := by
      decide
    exact different c (by simpa using List.all_eq_true.mp outside c member) rfl
  have notIndicator : c = '-' ∨ c = '?' ∨ c = ':' → startsBlank rest = false := by
    rintro (rfl | rfl | rfl) <;> exact absurd lower (by decide)
  have notDocument : startsDocumentMark (c :: rest) = false := by
    unfold startsDocumentMark
    split
    case h_1 dash => cases dash; exact absurd lower (by decide)
    case h_2 dot => cases dot; exact absurd lower (by decide)
    case h_3 => rfl
  exact readToken?_plain noFlow rest_eq notReserved notIndicator (fun _ => notDocument)
    (isBlank_of_letter lower upper) (isBreak_of_letter lower upper)

/-- The key that would start at a state. -/
def keyAt (state : TokenState) : PendingKey :=
  ⟨state.tokens.length, state.place, state.blocks.head? == some state.place.column⟩

theorem saveKey?_of_allowed {state : TokenState} (noKey : state.blockKey = none)
    (noFlow : state.flowKeys = []) (allowed : state.keyAllowed = true) :
    state.saveKey? = some { state with blockKey := some (keyAt state) } := by
  obtain ⟨place, rest, blocks, blockKey, flowKeys, keyAllowed, tokens, ended⟩ := state
  cases noKey
  cases noFlow
  cases allowed
  rfl

theorem saveKey?_of_not_allowed {state : TokenState} (notAllowed : state.keyAllowed = false) :
    state.saveKey? = some state := by
  rw [saveKey?, notAllowed]
  rfl

/-- The state of the reader after the name of an entry. -/
def colonState (start : TokenState) (name rest : List Char) : TokenState :=
  { start with
    place := start.place.advance name.length
    rest := ':' :: rest
    keyAllowed := false
    tokens := start.tokens ++ [.scalar (String.ofList name) .plain]
    blockKey := some (keyAt start) }

theorem readToken?_name {state : TokenState} (isName : IsEntryName name)
    (blank : startsBlank rest = true) (noKey : state.blockKey = none) (noFlow : state.flowKeys = [])
    (allowed : state.keyAllowed = true) (rest_eq : state.rest = name ++ ':' :: rest) :
    state.readToken? = some (colonState state name rest) := by
  obtain ⟨c, isHead, lower, upper⟩ := isName.starts
  obtain ⟨others, rfl⟩ : ∃ others, name = c :: others := List.head?_eq_some_iff.mp isHead
  obtain ⟨place, rest', blocks, blockKey, flowKeys, keyAllowed, tokens, ended⟩ := state
  cases noKey
  cases noFlow
  cases allowed
  cases rest_eq
  rw [readToken?_letter rfl rfl lower upper, readPlainScalar?, saveKey?_of_allowed rfl rfl rfl]
  change (readPlain false _ .empty place (c :: others ++ ':' :: rest)).bind _ = _
  rw [readPlain_name isName blank]
  rfl

/-- A name is not too long to become a key. -/
theorem isStale_colonState {state : TokenState} (isName : IsEntryName name) :
    (keyAt state).isStale (colonState state name rest).place = false := by
  have near : ¬ state.place.offset + keyReach < state.place.offset + name.length :=
    Nat.not_lt.mpr (Nat.add_le_add_left isName.short _)
  simp only [PendingKey.isStale, keyAt, colonState, Position.advance, Nat.lt_irrefl, near,
    decide_false, Bool.or_self]

theorem atColon_colonState {state : TokenState} (isName : IsEntryName name) (rest : List Char)
    (noFlow : state.flowKeys = []) (goesOn : state.ended = false) :
    AtColon state.blocks state.place.column name rest state.tokens (colonState state name rest) where
  pending := ⟨keyAt state, rfl, rfl, isStale_colonState isName, rfl, rfl, rfl, noFlow, goesOn⟩
  further := by
    obtain ⟨c, isHead, -⟩ := isName.starts
    cases name with
    | nil => cases isHead
    | cons => exact Nat.lt_add_of_pos_right (Nat.succ_pos _)
  noKey := rfl
  rest_eq := rfl

/-- The name of an entry becomes the pending key. -/
theorem leads_name (isName : IsEntryName name) (blank : startsBlank rest = true) :
    Leads 1 (AtEntry blocks width (name ++ ':' :: rest) tokens)
      (AtColon (keptBlocks width blocks) width name rest (tokens ++ endTokens width blocks)) := by
  refine Leads.of_step fun state atEntry => ?_
  obtain ⟨place, rfl, space⟩ := atEntry.atMargin
  have atColon := atColon_colonState isName rest
    (rfl : (tokenState blocks tokens none true place (name ++ ':' :: rest)).flowKeys = []) rfl
  refine ⟨_, atColon, rfl, ?_⟩
  obtain ⟨key, -, -, fresh, standing⟩ := atColon.pending
  rw [atEntry.toStanding.step?_eq space nofun, readToken?_name isName blank rfl rfl rfl rfl]
  exact standing.dropStale?_pending fresh

/-- The space before a token ends at it. -/
theorem skipSpace_token {c : Char} {keyAllowed : Bool} {place : Position} (rest : List Char)
    (notBlank : isBlank c = false) (notBreak : isBreak c = false) (notComment : c ≠ '#')
    (notMark : place.column = 0 → isByteOrderMark c = false) :
    skipSpace false false keyAllowed place (c :: rest) = (place, keyAllowed, c :: rest) := by
  have notReturn : c ≠ '\r' := by
    rintro rfl
    cases notBreak
  have notMark : ¬ (place.column = 0 ∧ isByteOrderMark c = true) := by
    rintro ⟨start, isMark⟩
    rw [notMark start] at isMark
    cases isMark
  simp only [isBlank, Bool.or_eq_false_iff, beq_eq_false_iff_ne] at notBlank
  rw [skipSpace]
  · simp [notBreak, notBlank, notComment, notMark]
  · grind

theorem keptBlocks_eq_self (below : ∀ block ∈ blocks.head?, block ≤ width) :
    keptBlocks width blocks = blocks ∧ endTokens width blocks = [] := by
  cases blocks with
  | nil => exact ⟨rfl, rfl⟩
  | cons block others =>
      have notDeeper := Nat.not_lt.mpr (below block rfl)
      simp [keptBlocks, endTokens, notDeeper]

theorem head?_keptBlocks_le (width : Nat) (blocks : List Nat) :
    ∀ block ∈ (keptBlocks width blocks).head?, block ≤ width := by
  intro block isHead
  have notDeeper := List.head?_dropWhile_not (fun block => decide (width < block)) blocks
  rw [keptBlocks, Option.mem_def] at isHead
  rw [isHead] at notDeeper
  simpa using notDeeper

theorem readToken?_colon {state : TokenState} (rest_eq : state.rest = ':' :: rest)
    (blank : startsBlank rest = true) : state.readToken? = state.readValue? := by
  have noDocument : startsDocumentMark (':' :: rest) = false := rfl
  rw [readToken?, rest_eq]
  simp [noDocument, blank]

/-- A colon puts the mark of a key in front of the pending key, and the start of a block before it
where the key is deeper than the open blocks. -/
theorem readValue?_pending {place : Position} {key : PendingKey} {keyAllowed : Bool} {name : Token}
    (index : key.index = tokens.length) (column : key.place.column = width) :
    readValue? {
      place, rest := ':' :: rest, keyAllowed
      blocks := keptBlocks width blocks
      tokens := tokens ++ [name]
      blockKey := some key } =
    some {
      place := place.advance 1
      rest, keyAllowed := false
      blocks := openedBlocks width blocks
      tokens := tokens ++ startTokens width blocks ++ [.key, name, .value] } := by
  cases starts : startsBlock width blocks with
  | true =>
      have deeper : ((keptBlocks width blocks).head?.all fun block => decide (block < width)) = true :=
        starts
      simp [readValue?, pendingKey, setPendingKey, openBlock, isDeeper, inFlow, push, skip, index,
        column, deeper, openedBlocks, startTokens, starts]
  | false =>
      have notDeeper :
          ((keptBlocks width blocks).head?.all fun block => decide (block < width)) = false := starts
      simp [readValue?, pendingKey, setPendingKey, openBlock, isDeeper, inFlow, push, skip, index,
        column, notDeeper, openedBlocks, startTokens, starts]

/-- A colon before a blank makes the pending key the key of an entry. -/
theorem leads_colon (blank : startsBlank rest = true) :
    Leads 1 (AtColon (keptBlocks width blocks) width name rest tokens)
      (AtValue (openedBlocks width blocks) width rest (tokens ++ startTokens width blocks ++
        [.key, .scalar (String.ofList name) .plain, .value])) := by
  refine Leads.of_step fun state atColon => ?_
  obtain ⟨key, index, column, fresh, standing⟩ := atColon.pending
  have space : skipSpace false false state.keyAllowed state.place state.rest =
      (state.place, false, ':' :: rest) := by
    rw [atColon.rest_eq, atColon.noKey]
    exact skipSpace_token rest (by decide) (by decide) (by decide) (fun _ => by decide)
  obtain ⟨kept, noEnd⟩ := keptBlocks_eq_self fun block isHead => Nat.le_of_lt
    (Nat.lt_of_le_of_lt (head?_keptBlocks_le width blocks block isHead) atColon.further)
  rw [standing.step?_eq space fun pending isKey => by cases isKey; exact fresh, tokenState, kept,
    noEnd, List.append_nil, readToken?_colon rfl blank, readValue?_pending index column]
  have atValue : AtValue (openedBlocks width blocks) width rest (tokens ++ startTokens width blocks ++
      [.key, .scalar (String.ofList name) .plain, .value]) {
        place := state.place.advance 1
        rest, keyAllowed := false
        blocks := openedBlocks width blocks
        tokens := tokens ++ startTokens width blocks ++
          [.key, .scalar (String.ofList name) .plain, .value] } :=
    ⟨⟨rfl, rfl, rfl, rfl, rfl⟩, head?_openedBlocks width blocks, Nat.lt_succ_of_lt atColon.further,
      rfl, rfl⟩
  exact ⟨_, atValue, rfl, atValue.toStanding.dropStale?⟩

/-- The tokens for an entry up to its colon: the blocks that it ends and the one that it starts, and
its key. -/
def keyTokens (width : Nat) (blocks : List Nat) (name : List Char) : List Token :=
  endTokens width blocks ++ (startTokens width blocks ++
    [.key, .scalar (String.ofList name) .plain, .value])

/-- The reader goes over the name and the colon of an entry. -/
theorem leads_key (isName : IsEntryName name) (blank : startsBlank rest = true) :
    Leads 2 (AtEntry blocks width (name ++ ':' :: rest) tokens)
      (AtValue (openedBlocks width blocks) width rest (tokens ++ keyTokens width blocks name)) := by
  have toColon : Leads 1 (AtEntry blocks width (name ++ ':' :: rest) tokens) _ :=
    leads_name isName blank
  have both := toColon.trans (leads_colon blank)
  rw [List.append_assoc, List.append_assoc] at both
  exact both

/-! ## Values -/

section Space

variable {body : List Char} {outer : Nat}

/-- The margin of a line is skipped. -/
theorem skipSpace_margin (width : Nat) (keyAllowed : Bool) (place : Position) :
    ∃ next, next.column = place.column + width ∧ ∀ rest,
      skipSpace false false keyAllowed place (margin width ++ rest) =
        skipSpace false false keyAllowed next rest := by
  induction width generalizing place with
  | zero => exact ⟨place, rfl, fun _ => rfl⟩
  | succ width inductionHypothesis =>
      obtain ⟨next, column, skips⟩ := inductionHypothesis (place.next ' ')
      refine ⟨next, by rw [column]; simp only [Position.next]; omega, fun rest => ?_⟩
      exact skips rest

/-- The space before an entry ends at it. -/
theorem skipSpace_entry (entry : StartsEntry body) (keyAllowed : Bool) (place : Position) :
    skipSpace false false keyAllowed place body = (place, keyAllowed, body) := by
  cases body with
  | nil => rfl
  | cons c rest =>
      obtain ⟨lower, upper⟩ := entry c rfl
      refine skipSpace_token rest (isBlank_of_letter lower upper) (isBreak_of_letter lower upper) ?_
        (fun _ => ?_)
      · rintro rfl
        exact absurd lower (by decide)
      · rw [isByteOrderMark, beq_eq_false_iff_ne]
        omega

/-- A line break and a margin lead to the next entry. -/
theorem skipSpace_lineBreak (entry : StartsEntry body) (outer : Nat) (keyAllowed : Bool)
    (place : Position) :
    ∃ next, next.column = outer ∧
      skipSpace false false keyAllowed place ('\n' :: (margin outer ++ body)) =
        (next, true, body) := by
  obtain ⟨next, column, skips⟩ := skipSpace_margin outer true (place.nextLine 1)
  have afterBreak : skipSpace false false keyAllowed place ('\n' :: (margin outer ++ body)) =
      skipSpace false false (keyAllowed || true) (place.nextLine 1) (margin outer ++ body) := rfl
  refine ⟨next, by rw [column]; exact Nat.zero_add outer, ?_⟩
  rw [afterBreak, Bool.or_true, skips, skipSpace_entry entry]

/-- Where the line ends after a colon, the reader stands before the next entry. -/
theorem AtValue.atEntry {state : TokenState} (entry : StartsEntry body)
    (atValue : AtValue blocks width ('\n' :: (margin outer ++ body)) tokens state) :
    AtEntry blocks outer body tokens state where
  toStanding := atValue.toStanding
  atMargin := by
    rw [atValue.rest_eq, atValue.noKey]
    exact skipSpace_lineBreak entry outer false state.place

end Space

/-- A value after a space is the next token. -/
theorem AtValue.step?_eq {state : TokenState} {c : Char}
    (atValue : AtValue blocks width (' ' :: c :: rest) tokens state) (notBlank : isBlank c = false)
    (notBreak : isBreak c = false) (notComment : c ≠ '#') :
    ∃ place, width < place.column ∧
      state.step? = (readToken? {
        place, rest := c :: rest, keyAllowed := false, blocks, tokens }).bind
          TokenState.dropStale? := by
  have further : width < (state.place.next ' ').column := Nat.lt_succ_of_lt atValue.further
  have space : skipSpace false false state.keyAllowed state.place state.rest =
      (state.place.next ' ', false, c :: rest) := by
    rw [atValue.rest_eq, atValue.noKey]
    exact skipSpace_token rest notBlank notBreak notComment fun start => by omega
  obtain ⟨kept, noEnd⟩ : keptBlocks (state.place.next ' ').column blocks = blocks ∧
      endTokens (state.place.next ' ').column blocks = [] := by
    refine keptBlocks_eq_self fun block isHead => ?_
    rw [atValue.within] at isHead
    cases isHead
    exact Nat.le_of_lt further
  refine ⟨state.place.next ' ', further, ?_⟩
  rw [atValue.toStanding.step?_eq space nofun, tokenState, kept, noEnd, List.append_nil]

/-- The state of the reader before the first character of a value. -/
def startState (blocks : List Nat) (tokens : List Token) (place : Position) (rest : List Char) :
    TokenState where
  place := place
  rest := rest
  keyAllowed := false
  blocks := blocks
  tokens := tokens

/-- Whether the reader takes the text at a place for a scalar and stands before the next entry after
it. -/
def TakesScalar (text : List Char) (style : Style) (outer : Nat) (body : List Char)
    (start : TokenState) : Prop :=
  ∃ keyAllowed read, start.readToken? = some (start.pushScalar style keyAllowed read) ∧
    read.text = text ∧ ∃ next, next.column = outer ∧
      skipSpace false false keyAllowed read.place read.rest = (next, true, body)

variable {text body : List Char} {style : Style} {outer : Nat}

/-- A value is a scalar if its first character starts one wherever it stands on the line. -/
theorem leads_scalar {c : Char} (notBlank : isBlank c = false) (notBreak : isBreak c = false)
    (notComment : c ≠ '#') (blocks : List Nat) (tokens : List Token)
    (takes : ∀ place, width < place.column → blocks.head? = some width →
      TakesScalar text style outer body (startState blocks tokens place (c :: rest))) :
    Leads 1 (AtValue blocks width (' ' :: c :: rest) tokens)
      (AtEntry blocks outer body (tokens ++ [.scalar (String.ofList text) style])) := by
  refine Leads.of_step fun state atValue => ?_
  obtain ⟨place, further, steps⟩ := atValue.step?_eq notBlank notBreak notComment
  obtain ⟨keyAllowed, read, token, rfl, next, column, space⟩ := takes place further atValue.within
  have atEntry : AtEntry blocks outer body (tokens ++ [.scalar (String.ofList read.text) style])
      ((startState blocks tokens place (c :: rest)).pushScalar style keyAllowed read) :=
    ⟨⟨rfl, rfl, rfl, rfl, rfl⟩, next, column, space⟩
  refine ⟨_, atEntry, rfl, ?_⟩
  rw [steps]
  change (startState blocks tokens place (c :: rest)).readToken?.bind _ = _
  rw [token]
  exact atEntry.toStanding.dropStale?

/-- A quoted scalar is taken if its reader reads it up to the end of the line. -/
theorem takesScalar_quoted {start : TokenState} {form : List Char}
    {reader : Gap → Position → List Char → Option ScalarRead} (entry : StartsEntry body)
    (token : start.readToken? = start.readQuotedScalar? style reader)
    (notAllowed : start.keyAllowed = false)
    (rest_eq : start.rest.drop 1 = form ++ '\n' :: (margin outer ++ body))
    (reads : ∃ next, reader .empty (start.place.advance 1) (form ++ '\n' :: (margin outer ++ body)) =
      some ⟨text, next, '\n' :: (margin outer ++ body), false⟩) :
    TakesScalar text style outer body start := by
  obtain ⟨next, reads⟩ := reads
  refine ⟨false, ⟨text, next, '\n' :: (margin outer ++ body), false⟩, ?_, rfl,
    skipSpace_lineBreak entry outer false next⟩
  rw [token, readQuotedScalar?, saveKey?_of_not_allowed notAllowed]
  change (reader .empty (start.place.advance 1) (start.rest.drop 1)).bind _ = _
  rw [rest_eq, reads]
  rfl

theorem readToken?_doubleQuoted {state : TokenState} (rest_eq : state.rest = '\x22' :: rest) :
    state.readToken? = state.readQuotedScalar? .doubleQuoted readDoubleQuoted := by
  have noDocument : startsDocumentMark ('\x22' :: rest) = false := rfl
  rw [readToken?, rest_eq]
  simp [noDocument]

theorem readToken?_singleQuoted {state : TokenState} (rest_eq : state.rest = '\x27' :: rest) :
    state.readToken? = state.readQuotedScalar? .singleQuoted readSingleQuoted := by
  have noDocument : startsDocumentMark ('\x27' :: rest) = false := rfl
  rw [readToken?, rest_eq]
  simp [noDocument]

theorem readToken?_literal {state : TokenState} (noFlow : state.flowKeys = [])
    (rest_eq : state.rest = '|' :: rest) :
    state.readToken? = state.readBlockScalar? .literal := by
  have noDocument : startsDocumentMark ('|' :: rest) = false := rfl
  have outside : state.inFlow = false := by rw [inFlow, noFlow]; rfl
  rw [readToken?, rest_eq]
  simp [noDocument, outside]

/-- Whether a form of a value is read as the given scalar before every entry that is not deeper. -/
def IsRead (width : Nat) (form text : List Char) (style : Style) : Prop :=
  ∀ (blocks : List Nat) (outer : Nat) (body : List Char) (tokens : List Token),
    outer ≤ width → StartsEntry body →
    Leads 1 (AtValue blocks width (' ' :: (form ++ (margin outer ++ body))) tokens)
      (AtEntry blocks outer body (tokens ++ [.scalar (String.ofList text) style]))

theorem isRead_doubleQuoted (width : Nat) (text : List Char) :
    IsRead width ('\x22' :: (doubleQuotedForm text ++ ['\n'])) text .doubleQuoted := by
  intro blocks outer body tokens outside entry
  simp only [List.cons_append, List.append_assoc, List.nil_append]
  refine leads_scalar (by decide) (by decide) (by decide) blocks tokens fun place further within => ?_
  refine takesScalar_quoted entry (readToken?_doubleQuoted rfl) rfl rfl ?_
  exact readDoubleQuoted_form text .empty (place.advance 1) _ rfl (Nat.succ_pos _)

theorem isRead_singleQuoted (width : Nat) (printable : ∀ c ∈ text, isPrintable c = true)
    (noFeed : '\n' ∉ text) (noBlankEnd : hasPair isSpace isBreak text = false)
    (noBlankStart : hasPair isBreak isSpace text = false) :
    IsRead width ('\x27' :: (singleQuotedForm (width + indentStep) false text ++ ['\n'])) text
      .singleQuoted := by
  intro blocks outer body tokens outside entry
  simp only [List.cons_append, List.append_assoc, List.nil_append]
  refine leads_scalar (by decide) (by decide) (by decide) blocks tokens fun place further within => ?_
  refine takesScalar_quoted entry (readToken?_singleQuoted rfl) rfl rfl ?_
  exact readSingleQuoted_form (Nat.succ_pos _) text _ printable noFeed noBlankEnd noBlankStart .empty
    (place.advance 1) (.inLine rfl (Nat.succ_pos _) (.inl rfl))

theorem isRead_literal (width : Nat) (printable : ∀ c ∈ text, isPrintable c = true)
    (notEmpty : text ≠ []) :
    IsRead width (literalHeader text ++ literalForm (width + indentStep) true text) text
      .literal := by
  intro blocks outer body tokens outside entry
  rw [List.append_assoc, literalHeader, List.cons_append]
  refine leads_scalar (by decide) (by decide) (by decide) blocks tokens fun place further within => ?_
  obtain ⟨next, column, reads⟩ := readBlock_form outside entry (place.advance 1) printable notEmpty
  refine ⟨true, ⟨text, next, body, false⟩, ?_, rfl, next, column, skipSpace_entry entry true next⟩
  rw [readToken?_literal rfl rfl]
  change (readBlock .literal blocks.head? (place.advance 1) ((literalHeader text).tail ++
    (literalForm (width + indentStep) true text ++ (margin outer ++ body)))).bind _ = _
  rw [within, reads]
  rfl

/-- A text that fits without marks is read back. -/
theorem isRead_plain (width : Nat) (fits : fitsPlain text = true) (notEmpty : text ≠ []) :
    IsRead width (text ++ ['\n']) text .plain := by
  intro blocks outer body tokens outside entry
  cases text with
  | nil => exact absurd rfl notEmpty
  | cons c others =>
      have fits := fits_of_fitsPlain fits
      obtain ⟨⟨printable, notBreak⟩, line⟩ := List.forall_mem_cons.mp fits.line
      have notBlank : isBlank c = false := by rw [isBlank_eq_isSpace printable, fits.noSpace]
      have notComment : c ≠ '#' := by
        rintro rfl
        exact absurd fits.notReserved (by decide)
      simp only [List.cons_append, List.append_assoc, List.nil_append]
      refine leads_scalar notBlank notBreak notComment blocks tokens fun place further within => ?_
      obtain ⟨next, column, ends⟩ := readPlain_lineBreak ((c :: others).foldl Position.next place)
        (Nat.lt_succ_of_le outside) entry
      have reads := fits.readPlain_append ('\n' :: (margin outer ++ body)) further
        (Nat.zero_lt_of_lt further)
      rw [ends] at reads
      refine ⟨true, ⟨c :: others, next, body, true⟩, ?_, rfl, next, column,
        skipSpace_entry entry true next⟩
      obtain ⟨outerBlocks, rfl⟩ : ∃ outerBlocks, blocks = width :: outerBlocks :=
        List.head?_eq_some_iff.mp within
      rw [readToken?_plain rfl rfl fits.notReserved
        (fun indicator => startsBlank_append line (fits.notIndicator indicator))
        (fun start => absurd start (Nat.ne_of_gt (Nat.zero_lt_of_lt further))) notBlank notBreak,
        readPlainScalar?, saveKey?_of_not_allowed rfl]
      change (readPlain false (width + 1) .empty place
        (c :: others ++ '\n' :: (margin outer ++ body))).bind _ = _
      rw [reads]
      simp [ScalarRead.prepend]

end Steps

end Sbom.Yaml
