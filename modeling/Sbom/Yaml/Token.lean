import Sbom.Text.Decimal
import Sbom.Yaml.Scalar

/-!
# Tokens

The tokens of YAML text and the reader that finds them. Indentation outside flow collections becomes
tokens of its own: a block starts where a line is indented deeper than the open blocks and ends
where one is indented less. A key needs no mark when a colon follows it on the same line within 1024
bytes, so the mark is put in front of the key once the colon is seen; until then the key is pending.

Where the text is malformed the reader stops. The tokens before the first pending key are then
settled: nothing that follows could have changed them.
-/

namespace Sbom.Yaml

/-- A token of YAML text. -/
inductive Token where
  /-- The end of the text. -/
  | endOfText
  /-- The version a document is written for. -/
  | version (major minor : Nat)
  /-- The meaning of a tag handle. -/
  | tagHandle (handle meaning : String)
  /-- The mark before a document. -/
  | documentStart
  /-- The mark after a document. -/
  | documentEnd
  /-- The start of a block sequence. -/
  | blockSequenceStart
  /-- The start of a block mapping. -/
  | blockMappingStart
  /-- The end of a block. -/
  | blockEnd
  /-- An opening bracket. -/
  | flowSequenceStart
  /-- A closing bracket. -/
  | flowSequenceEnd
  /-- An opening brace. -/
  | flowMappingStart
  /-- A closing brace. -/
  | flowMappingEnd
  /-- The mark of an entry in a block sequence. -/
  | blockEntry
  /-- The mark between entries of a flow collection. -/
  | flowEntry
  /-- The mark of a key. -/
  | key
  /-- The mark of a value. -/
  | value
  /-- A reference to an anchor. -/
  | alias (name : String)
  /-- The name of the next node. -/
  | anchor (name : String)
  /-- The type of the next node. -/
  | tag (handle suffix : String)
  /-- A scalar. -/
  | scalar (text : String) (style : Style)
deriving DecidableEq, Repr

/-- A node that becomes a key if a colon follows in time. -/
structure PendingKey where
  /-- The number of tokens before it. -/
  index : Nat
  /-- Where it starts. -/
  place : Position
  /-- Whether nothing but a key may stand there. -/
  required : Bool

/-- How many bytes an implicit key may reach. -/
def keyReach : Nat := 1024

/-- Whether a pending key can no longer become a key at a position. -/
def PendingKey.isStale (key : PendingKey) (place : Position) : Bool :=
  key.place.line < place.line || key.place.offset + keyReach < place.offset

/-- The state of the reader. -/
structure TokenState where
  /-- The position. -/
  place : Position := {}
  /-- The rest of the text. -/
  rest : List Char
  /-- The columns of the open blocks, the innermost first. -/
  blocks : List Nat := []
  /-- The pending key outside flow collections. -/
  blockKey : Option PendingKey := none
  /-- The pending keys of the open flow collections, the innermost first. -/
  flowKeys : List (Option PendingKey) := []
  /-- Whether a key may start here. -/
  keyAllowed : Bool := true
  /-- The tokens so far. -/
  tokens : List Token := []
  /-- Whether the end of the text was reached. -/
  ended : Bool := false

namespace TokenState

/-- Whether the reader is inside a flow collection. -/
def inFlow (state : TokenState) : Bool :=
  !state.flowKeys.isEmpty

/-- All pending keys. -/
def pendingKeys (state : TokenState) : List PendingKey :=
  state.blockKey.toList ++ state.flowKeys.filterMap id

/-- The tokens that nothing later can change. -/
def settled (state : TokenState) : List Token :=
  state.pendingKeys.foldl (fun tokens key => tokens.take key.index) state.tokens

/-- The state with one more token. -/
def push (state : TokenState) (token : Token) : TokenState :=
  { state with tokens := state.tokens ++ [token] }

/-- The state after some characters of the line. -/
def skip (state : TokenState) (count : Nat) : TokenState :=
  { state with place := state.place.advance count, rest := state.rest.drop count }

/-- The state at another place. -/
def moveTo (state : TokenState) (place : Position) (rest : List Char) : TokenState :=
  { state with place, rest }

/-- The innermost pending key. -/
def pendingKey (state : TokenState) : Option PendingKey :=
  match state.flowKeys with
  | [] => state.blockKey
  | key :: _ => key

/-- The state with another innermost pending key. -/
def setPendingKey (state : TokenState) (key : Option PendingKey) : TokenState :=
  match state.flowKeys with
  | [] => { state with blockKey := key }
  | _ :: outer => { state with flowKeys := key :: outer }

/-- Gives up the innermost pending key; none if nothing but a key may stand there. -/
def dropKey? (state : TokenState) : Option TokenState :=
  if state.pendingKey.any PendingKey.required then none else some (state.setPendingKey none)

/-- The pending key that is left at a position; none if a required key is stale. -/
def refresh? (place : Position) (key : Option PendingKey) : Option (Option PendingKey) :=
  match key with
  | none => some none
  | some pending =>
    if pending.isStale place then (if pending.required then none else some none)
    else some (some pending)

/-- Gives up the pending keys that are stale; none if one of them is required. -/
def dropStale? (state : TokenState) : Option TokenState := do
  let blockKey ← refresh? state.place state.blockKey
  let flowKeys ← state.flowKeys.mapM (refresh? state.place)
  return { state with blockKey, flowKeys }

/-- Makes what follows a pending key, if a key may start here. -/
def saveKey? (state : TokenState) : Option TokenState :=
  if state.keyAllowed then
    let required := !state.inFlow && state.blocks.head? == some state.place.column
    state.dropKey?.map fun cleared =>
      cleared.setPendingKey (some ⟨state.tokens.length, state.place, required⟩)
  else some state

/-- Whether a block that starts at a column is nested deeper than the open ones. -/
def isDeeper (state : TokenState) (column : Nat) : Bool :=
  !state.inFlow && state.blocks.head?.all fun current => current < column

/-- Opens a block at a column, if that is deeper than the open ones; its token is put before the
token with the given index. -/
def openBlock (state : TokenState) (column index : Nat) (token : Token) : TokenState :=
  if state.isDeeper column then
    { state with
      blocks := column :: state.blocks
      tokens := state.tokens.take index ++ token :: state.tokens.drop index }
  else state

/-- Closes the blocks that are deeper than a column. -/
def closeBlocks (state : TokenState) (column : Nat) : TokenState :=
  if state.inFlow then state
  else
    { state with
      blocks := state.blocks.dropWhile fun block => column < block
      tokens := state.tokens ++
        (state.blocks.takeWhile fun block => column < block).map fun _ => .blockEnd }

/-- Closes all blocks. -/
def closeAllBlocks (state : TokenState) : TokenState :=
  if state.inFlow then state
  else
    { state with
      blocks := []
      tokens := state.tokens ++ state.blocks.map fun _ => .blockEnd }

/-! ## The space between tokens -/

/-- Skips blanks, comments and line breaks. A tab is no blank where a key may start outside flow
collections. A byte order mark at the start of a line is skipped, but takes up a column. -/
def skipSpace (inFlow inComment keyAllowed : Bool) (place : Position) :
    List Char → Position × Bool × List Char
  | [] => (place, keyAllowed, [])
  | '\r' :: '\n' :: rest =>
    skipSpace inFlow false (keyAllowed || !inFlow) (place.nextLine 2) rest
  | c :: rest =>
    if isBreak c then
      skipSpace inFlow false (keyAllowed || !inFlow) (place.nextLine c.utf8Size) rest
    else if inComment || c == ' ' || (c == '\t' && (inFlow || !keyAllowed)) ||
        (place.column == 0 && isByteOrderMark c) then
      skipSpace inFlow inComment keyAllowed (place.next c) rest
    else if c == '#' then skipSpace inFlow true keyAllowed (place.next c) rest
    else (place, keyAllowed, c :: rest)

/-- The state at the next token. -/
def toNextToken (state : TokenState) : TokenState :=
  let (place, keyAllowed, rest) :=
    skipSpace state.inFlow false state.keyAllowed state.place state.rest
  { state with place, keyAllowed, rest }

/-! ## Names, tags and directives -/

/-- A run of name characters; none if there is none. -/
def readName? (place : Position) (text : List Char) :
    Option (List Char × Position × List Char) :=
  match spanWhile isNameChar place text with
  | ([], _, _) => none
  | found => some found

/-- Whether the name of an anchor may end here. -/
def endsName (text : List Char) : Bool :=
  startsBlank text || match text with
    | [] => true
    | c :: _ => c == '?' || c == ':' || c == ',' || c == ']' || c == '\x7d' || c == '%' ||
        c == '@' || c.toNat == 0x60

/-- Whether a character may stand in a tag; the marks of flow sequences only between angle
brackets and in directives. -/
def isTagChar (wide : Bool) (c : Char) : Bool :=
  isNameChar c || c == ';' || c == '/' || c == '?' || c == ':' || c == '@' || c == '&' ||
    c == '=' || c == '+' || c == '$' || c == '.' || c == '%' || c == '!' || c == '~' ||
    c == '*' || c == '\x27' || c == '(' || c == ')' ||
    (wide && (c == ',' || c == '[' || c == ']'))

/-- The bytes of an escaped character in a tag: the first byte of UTF-8 tells how many there are. -/
def byteCount? (first : Nat) : Option Nat :=
  if first < 0x80 then some 1
  else if 0xC0 ≤ first && first < 0xE0 then some 2
  else if 0xE0 ≤ first && first < 0xF0 then some 3
  else if 0xF0 ≤ first && first < 0xF8 then some 4
  else none

/-- The byte of an escape at the start of a text. -/
def escapedByte? : List Char → Option (UInt8 × List Char)
  | '%' :: a :: b :: rest => (hexNumber? [a, b]).map fun value => (UInt8.ofNat value, rest)
  | _ => none

/-- As many bytes as asked for, each of them escaped. -/
def escapedBytes? : Nat → List Char → Option (List UInt8 × List Char)
  | 0, text => some ([], text)
  | count + 1, text => do
    let (byte, rest) ← escapedByte? text
    let (bytes, rest) ← escapedBytes? count rest
    return (byte :: bytes, rest)

/-- Whether a byte can follow the first one of a character. -/
def continuesChar (byte : UInt8) : Bool :=
  0x80 ≤ byte && byte < 0xC0

/-- The character of its bytes; the replacement character, which no known tag holds, when they are
none. -/
def charsOfBytes (bytes : List UInt8) : List Char :=
  match String.fromUTF8? ⟨bytes.toArray⟩ with
  | some decoded => decoded.toList
  | none => [Char.ofNat 0xFFFD]

/-- The character that the escapes at the start of a text stand for, and the rest. -/
def escapedChar? (text : List Char) : Option (List Char × List Char) := do
  let (first, _) ← escapedByte? text
  let count ← byteCount? first.toNat
  let (bytes, rest) ← escapedBytes? count text
  if bytes.tail.all continuesChar then return (charsOfBytes bytes, rest) else none

/-- The characters of a tag with its escapes resolved. -/
def resolveEscapes? : Nat → List Char → Option (List Char)
  | 0, _ => none
  | _, [] => some []
  | fuel + 1, c :: rest =>
    if c == '%' then do
      let (decoded, rest) ← escapedChar? (c :: rest)
      let resolved ← resolveEscapes? fuel rest
      return decoded ++ resolved
    else (resolveEscapes? fuel rest).map (c :: ·)

/-- A run of tag characters with its escapes resolved, up to the first zero byte in it. It must not
be empty if it is `needed`. -/
def readTagText? (wide needed : Bool) (place : Position) (text : List Char) :
    Option (List Char × Position × List Char) :=
  let (word, place, rest) := spanWhile (isTagChar wide) place text
  if needed && word.isEmpty then none
  else
    (resolveEscapes? (word.length + 1) word).map fun resolved =>
      (resolved.takeWhile fun c => c.toNat != 0, place, rest)

/-- A tag handle: an exclamation mark, a name, and another mark if it is there. -/
def readHandle? (place : Position) : List Char → Option (List Char × Position × List Char)
  | '!' :: rest =>
    let (name, place, rest) := spanWhile isNameChar (place.advance 1) rest
    match rest with
    | '!' :: rest => some ('!' :: (name ++ ['!']), place.advance 1, rest)
    | rest => some ('!' :: name, place, rest)
  | _ => none

/-- Whether a handle may be given a meaning: it has a mark at its end, or is the primary one. -/
def isHandle (handle : List Char) : Bool :=
  handle.getLast? == some '!'

/-- A tag whose parts are known. -/
structure TagRead where
  /-- The handle. -/
  handle : List Char
  /-- The rest of the tag. -/
  suffix : List Char
  /-- The position after the tag. -/
  place : Position
  /-- The rest of the text. -/
  rest : List Char

/-- A tag between angle brackets, after its opening. -/
def readVerbatimTag? (place : Position) (text : List Char) : Option TagRead :=
  (readTagText? true true place text).bind fun (suffix, place, rest) =>
    match rest with
    | '>' :: rest => some ⟨[], suffix, place.advance 1, rest⟩
    | _ => none

/-- A tag with a handle of two marks, or one that the primary handle starts. -/
def readShorthandTag? (place : Position) (text : List Char) : Option TagRead :=
  (readHandle? place text).bind fun (handle, place, rest) =>
    let named := 2 ≤ handle.length && isHandle handle
    (readTagText? false named place rest).bind fun (suffix, place, rest) =>
      if named then some ⟨handle, suffix, place, rest⟩
      else
        match handle.tail ++ suffix with
        | [] => some ⟨[], ['!'], place, rest⟩
        | whole => some ⟨['!'], whole, place, rest⟩

/-- A tag. -/
def readTag? (place : Position) (text : List Char) : Option TagRead :=
  match text with
  | '!' :: '<' :: rest => readVerbatimTag? (place.advance 2) rest
  | text => readShorthandTag? place text

/-- A number of a version: one to nine digits. -/
def readVersionNumber? (place : Position) (text : List Char) :
    Option (Nat × Position × List Char) :=
  match spanWhile Text.isDigit place text with
  | ([], _, _) => none
  | (digits, place, rest) =>
    if digits.length ≤ 9 then some (Text.decimalValue digits, place, rest) else none

/-- The content of a version directive. -/
def readVersion? (place : Position) (text : List Char) :
    Option (Token × Position × List Char) := do
  let (place, text) := skipWhile isBlank place text
  let (major, place, text) ← readVersionNumber? place text
  match text with
  | '.' :: text =>
    let (minor, place, text) ← readVersionNumber? (place.advance 1) text
    return (.version major minor, place, text)
  | _ => none

/-- Whether a text goes on with a blank inside the line. -/
def goesOnBlank (text : List Char) : Bool :=
  text.head?.any isBlank

/-- The content of a directive that gives a meaning to a handle. -/
def readHandleMeaning? (place : Position) (text : List Char) :
    Option (Token × Position × List Char) := do
  let (place, text) := skipWhile isBlank place text
  let (handle, place, text) ← readHandle? place text
  if isHandle handle && goesOnBlank text then
    let (place, text) := skipWhile isBlank place text
    let (meaning, place, text) ← readTagText? true true place text
    if startsBlank text then
      return (.tagHandle (String.ofList handle) (String.ofList meaning), place, text)
    else none
  else none

/-- A directive after its mark, with the end of its line. -/
def readDirective? (place : Position) (text : List Char) :
    Option (Token × Position × List Char) := do
  let (name, place, text) ← readName? place text
  if startsBlank text then
    let (token, place, text) ←
      if name == ['Y', 'A', 'M', 'L'] then readVersion? place text
      else if name == ['T', 'A', 'G'] then readHandleMeaning? place text
      else none
    let (place, text) ← endHeaderLine? place text
    return (token, place, text)
  else none

/-! ## Reading one token -/

/-- The end of the text closes all blocks. -/
def readEnd? (state : TokenState) : Option TokenState := do
  let place := if state.place.column = 0 then state.place else state.place.nextLine 0
  let state ← ({ state with place }).closeAllBlocks.dropKey?
  return { state.push .endOfText with keyAllowed := false, ended := true }

/-- A directive. -/
def readDirectiveToken? (state : TokenState) : Option TokenState := do
  let state ← state.closeAllBlocks.dropKey?
  let (token, place, rest) ← readDirective? (state.place.advance 1) (state.rest.drop 1)
  return ({ state with keyAllowed := false }.push token).moveTo place rest

/-- A mark between documents. -/
def readDocumentMark? (state : TokenState) (token : Token) : Option TokenState := do
  let state ← state.closeAllBlocks.dropKey?
  return ({ state with keyAllowed := false }.push token).skip 3

/-- The opening of a flow collection. -/
def openFlow? (state : TokenState) (token : Token) : Option TokenState := do
  let state ← state.saveKey?
  return ({ state with flowKeys := none :: state.flowKeys, keyAllowed := true }.push token).skip 1

/-- The closing of a flow collection. -/
def closeFlow? (state : TokenState) (token : Token) : Option TokenState := do
  let state ← state.dropKey?
  return ({ state with flowKeys := state.flowKeys.drop 1, keyAllowed := false }.push token).skip 1

/-- The mark between entries of a flow collection. -/
def readFlowEntry? (state : TokenState) : Option TokenState := do
  let state ← state.dropKey?
  return ({ state with keyAllowed := true }.push .flowEntry).skip 1

/-- The mark of an entry in a block sequence. -/
def readBlockEntry? (state : TokenState) : Option TokenState :=
  if state.inFlow || state.keyAllowed then do
    let state ← (state.openBlock state.place.column state.tokens.length
      .blockSequenceStart).dropKey?
    return ({ state with keyAllowed := true }.push .blockEntry).skip 1
  else none

/-- The mark of a key. -/
def readKey? (state : TokenState) : Option TokenState :=
  if state.inFlow || state.keyAllowed then do
    let state ← (state.openBlock state.place.column state.tokens.length
      .blockMappingStart).dropKey?
    return ({ state with keyAllowed := !state.inFlow }.push .key).skip 1
  else none

/-- The mark of a value. It turns the pending key into a key. -/
def readValue? (state : TokenState) : Option TokenState :=
  match state.pendingKey with
  | some pending =>
    let marked := { state with
      tokens := state.tokens.take pending.index ++ Token.key :: state.tokens.drop pending.index }
    let opened := (marked.openBlock pending.place.column pending.index
      .blockMappingStart).setPendingKey none
    some (({ opened with keyAllowed := false }.push .value).skip 1)
  | none =>
    if state.inFlow then some (({ state with keyAllowed := false }.push .value).skip 1)
    else if state.keyAllowed then
      some (((state.openBlock state.place.column state.tokens.length
        .blockMappingStart).push .value).skip 1)
    else none

/-- An anchor, or a reference to one. -/
def readReference? (state : TokenState) (token : String → Token) : Option TokenState := do
  let state ← state.saveKey?
  let (name, place, rest) ← readName? (state.place.advance 1) (state.rest.drop 1)
  if endsName rest then
    return ({ state with keyAllowed := false }.push (token (String.ofList name))).moveTo place rest
  else none

/-- A tag. -/
def readTagToken? (state : TokenState) : Option TokenState := do
  let state ← state.saveKey?
  let tag ← readTag? state.place state.rest
  if startsBlank tag.rest || (state.inFlow && tag.rest.head? == some ',') then
    return ({ state with keyAllowed := false }.push
      (.tag (String.ofList tag.handle) (String.ofList tag.suffix))).moveTo tag.place tag.rest
  else none

/-- The state after a scalar. -/
def pushScalar (state : TokenState) (style : Style) (keyAllowed : Bool) (read : ScalarRead) :
    TokenState :=
  ({ state with keyAllowed }.push (.scalar (String.ofList read.text) style)).moveTo
    read.place read.rest

/-- A block scalar. -/
def readBlockScalar? (state : TokenState) (style : Style) : Option TokenState := do
  let state ← state.dropKey?
  let read ← readBlock style state.blocks.head? (state.place.advance 1) (state.rest.drop 1)
  return state.pushScalar style true read

/-- A quoted scalar. -/
def readQuotedScalar? (state : TokenState) (style : Style)
    (reader : Gap → Position → List Char → Option ScalarRead) : Option TokenState := do
  let state ← state.saveKey?
  let read ← reader .empty (state.place.advance 1) (state.rest.drop 1)
  return state.pushScalar style false read

/-- The indentation that the further lines of a plain scalar need. -/
def plainIndent (state : TokenState) : Nat :=
  match state.blocks with
  | [] => 0
  | column :: _ => column + 1

/-- A plain scalar. A key may start after it if it ends a line. -/
def readPlainScalar? (state : TokenState) : Option TokenState := do
  let state ← state.saveKey?
  let read ← readPlain state.inFlow state.plainIndent .empty state.place state.rest
  return state.pushScalar .plain read.crossed read

/-- Whether a character is a mark that cannot start a plain scalar. -/
def isMark (c : Char) : Bool :=
  isFlowMark c || c == '-' || c == '?' || c == ':' || c == '#' || c == '&' || c == '*' ||
    c == '!' || c == '|' || c == '>' || c == '\x27' || c == '\x22' || c == '%' || c == '@' ||
    c.toNat == 0x60

/-- Whether a plain scalar starts here. -/
def startsPlain (inFlow : Bool) (c : Char) (rest : List Char) : Bool :=
  !(isBlank c || isBreak c || isMark c) || (c == '-' && !goesOnBlank rest) ||
    (!inFlow && (c == '?' || c == ':') && !startsBlank rest)

/-- Reads the token that starts at the current place. -/
def readToken? (state : TokenState) : Option TokenState :=
  match state.rest with
  | [] => state.readEnd?
  | c :: rest =>
    if state.place.column = 0 ∧ c = '%' then state.readDirectiveToken?
    else if state.place.column = 0 ∧ startsDocumentMark (c :: rest) then
      state.readDocumentMark? (if c = '-' then .documentStart else .documentEnd)
    else if c = '[' then state.openFlow? .flowSequenceStart
    else if c = '\x7b' then state.openFlow? .flowMappingStart
    else if c = ']' then state.closeFlow? .flowSequenceEnd
    else if c = '\x7d' then state.closeFlow? .flowMappingEnd
    else if c = ',' then state.readFlowEntry?
    else if c = '-' ∧ startsBlank rest then state.readBlockEntry?
    else if c = '?' ∧ (state.inFlow ∨ startsBlank rest) then state.readKey?
    else if c = ':' ∧ (state.inFlow ∨ startsBlank rest) then state.readValue?
    else if c = '*' then state.readReference? .alias
    else if c = '&' then state.readReference? .anchor
    else if c = '!' then state.readTagToken?
    else if c = '|' ∧ !state.inFlow then state.readBlockScalar? .literal
    else if c = '>' ∧ !state.inFlow then state.readBlockScalar? .folded
    else if c = '\x27' then state.readQuotedScalar? .singleQuoted readSingleQuoted
    else if c = '\x22' then state.readQuotedScalar? .doubleQuoted readDoubleQuoted
    else if startsPlain state.inFlow c rest then state.readPlainScalar?
    else none

/-- One step of the reader: to the next token, and over it. -/
def step? (state : TokenState) : Option TokenState := do
  let state ← state.toNextToken.dropStale?
  let state ← (state.closeBlocks state.place.column).readToken?
  state.dropStale?

/-- Steps until the end of the text or until the text is malformed; the second result says which of
them. The text is malformed as well where a step reaches the offset `limit`. Every step reads a
character or ends the text, so the fuel is never used up. -/
def run (limit : Option Nat) : Nat → TokenState → TokenState × Bool
  | 0, state => (state, false)
  | fuel + 1, state =>
    match state.step? with
    | none => (state, false)
    | some next =>
      if limit.any fun offset => offset ≤ next.place.offset then (state, false)
      else if next.ended then (next, true)
      else run limit fuel next

end TokenState

/-- The greatest number of bytes in a block of text. -/
def blockSize : Nat := 16384

/-- The offset of the first block of text with a character that may not stand in YAML text. A block
is as many characters as fit, and the one that the text goes on with starts at `start`. -/
def unreadableFrom? (start offset : Nat) : List Char → Option Nat
  | [] => none
  | c :: rest =>
    let start := if start + blockSize < offset + c.utf8Size then offset else start
    if isReadable c then unreadableFrom? start (offset + c.utf8Size) rest else some start

/-- The settled tokens of a text. In a text that is not malformed the last one is the end of the
text. Text is taken in blocks, and nothing is read of a block with a character that may not stand in
it. -/
def tokensOf (text : List Char) : List Token :=
  ((TokenState.run (unreadableFrom? 0 0 text) (text.length + 1) { rest := text }).1).settled

end Sbom.Yaml
