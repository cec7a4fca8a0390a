import Sbom.Yaml.Token

/-!
# Events

A YAML document as a list of events: scalars, references, and the starts and ends of sequences and
mappings, in the order of the text. Where the text is malformed the list breaks off, and the events
before that place are still there. A reader of events therefore meets what stands first in the text,
be it an unexpected value or the end of what could be read.
-/

namespace Sbom.Yaml

/-- A node-by-node account of a document. -/
inductive Event where
  /-- A reference to an anchor. -/
  | alias (name : String)
  /-- A scalar. -/
  | scalar (anchor tag : Option String) (text : String) (style : Style)
  /-- The start of a sequence. -/
  | sequenceStart (anchor : Option String)
  /-- The end of a sequence. -/
  | sequenceEnd
  /-- The start of a mapping. -/
  | mappingStart (anchor : Option String)
  /-- The end of a mapping. -/
  | mappingEnd
deriving DecidableEq, Repr

/-- The anchor of the node that an event starts. -/
def Event.anchor? : Event → Option String
  | .scalar anchor _ _ _ => anchor
  | .sequenceStart anchor => anchor
  | .mappingStart anchor => anchor
  | _ => none

/-- The scalar that stands for a missing node. -/
def Event.missing : Event :=
  .scalar none none "" .plain

/-- Events that were found, and the tokens after them; no tokens where the text is malformed. -/
abbrev Found := List Event × Option (List Token)

namespace Found

/-- Nothing was found and nothing can follow. -/
def broken : Found := ([], none)

/-- The events of two parts of a text, the second of which starts where the first one ends. -/
def andThen (first : Found) (next : List Token → Found) : Found :=
  match first with
  | (events, none) => (events, none)
  | (events, some tokens) =>
    let (later, rest) := next tokens
    (events ++ later, rest)

/-- One event before others. -/
def after (event : Event) (found : Found) : Found :=
  (event :: found.1, found.2)

/-- Like `after`, but the event takes no token of its own: it is there once the token that follows
it is. -/
def between (event : Event) (tokens : List Token) (next : List Token → Found) : Found :=
  if tokens.isEmpty then .broken else .after event (next tokens)

end Found

/-! ## Properties of nodes -/

/-- The meanings of tag handles. -/
abbrev Handles := List (String × String)

/-- The handles that need no directive. -/
def standardHandles : Handles :=
  [("!", "!"), ("!!", "tag:yaml.org,2002:")]

/-- The full tag that a handle and a suffix stand for; a tag without a handle is full already. -/
def fullTag? (handles : Handles) (handle suffix : String) : Option String :=
  if handle.isEmpty then some suffix
  else ((handles ++ standardHandles).find? fun entry => entry.1 == handle).map fun entry =>
    entry.2 ++ suffix

/-- The anchor and the tag of a node. -/
structure Properties where
  /-- The anchor. -/
  anchor : Option String := none
  /-- The tag. -/
  tag : Option String := none

/-- Whether a node has a property. -/
def Properties.any (properties : Properties) : Bool :=
  properties.anchor.isSome || properties.tag.isSome

/-- The properties before a node, in either order, and the tokens after them; none if a tag has an
unknown handle. -/
def readProperties? (handles : Handles) : List Token → Option (Properties × List Token)
  | .anchor name :: .tag handle suffix :: rest =>
    (fullTag? handles handle suffix).map fun tag => (⟨some name, some tag⟩, rest)
  | .anchor name :: rest => some (⟨some name, none⟩, rest)
  | .tag handle suffix :: .anchor name :: rest =>
    (fullTag? handles handle suffix).map fun tag => (⟨some name, some tag⟩, rest)
  | .tag handle suffix :: rest =>
    (fullTag? handles handle suffix).map fun tag => (⟨none, some tag⟩, rest)
  | tokens => some ({}, tokens)

/-- The tag that a scalar keeps: the mark alone is no tag. -/
def scalarTag (tag : Option String) : Option String :=
  if tag == some "!" then none else tag

/-! ## Nodes -/

/-- Whether an entry of a block sequence has no node. -/
def endsBlockEntry : Token → Bool
  | .blockEntry | .blockEnd => true
  | _ => false

/-- Whether a key or a value of a block mapping, or an entry of a sequence that is not indented in
it, has no node. -/
def endsMappingPart : Token → Bool
  | .key | .value | .blockEnd => true
  | _ => false

/-- Whether a key of a flow mapping has no node. -/
def endsFlowKey : Token → Bool
  | .value | .flowEntry | .flowMappingEnd => true
  | _ => false

/-- Whether a value of a flow mapping has no node. -/
def endsFlowValue : Token → Bool
  | .flowEntry | .flowMappingEnd => true
  | _ => false

/-- Whether a key in a flow sequence has no node. -/
def endsPairKey : Token → Bool
  | .value | .flowEntry | .flowSequenceEnd => true
  | _ => false

/-- Whether a value in a flow sequence has no node. -/
def endsPairValue : Token → Bool
  | .flowEntry | .flowSequenceEnd => true
  | _ => false

mutual

/-- The events of one node. `block` says whether block collections may stand here, and `bare`
whether a sequence may stand here without being indented. The fuel bounds the number of calls inside
each other. -/
def nodeEvents (handles : Handles) (block bare : Bool) : Nat → List Token → Found
  | 0, _ => .broken
  | fuel + 1, tokens =>
    match tokens with
    | .alias name :: rest => ([.alias name], some rest)
    | tokens =>
      match readProperties? handles tokens with
      | none => .broken
      | some (properties, tokens) =>
        match tokens with
        | [] => .broken
        | .scalar text style :: rest =>
          ([.scalar properties.anchor (scalarTag properties.tag) text style], some rest)
        | .flowSequenceStart :: rest =>
          .after (.sequenceStart properties.anchor) (flowSequenceEvents handles true fuel rest)
        | .flowMappingStart :: rest =>
          .after (.mappingStart properties.anchor) (flowMappingEvents handles true fuel rest)
        | token :: rest =>
          if bare && token == .blockEntry then
            .after (.sequenceStart properties.anchor) (bareSequenceEvents handles fuel tokens)
          else if block && token == .blockSequenceStart then
            .after (.sequenceStart properties.anchor) (blockSequenceEvents handles fuel rest)
          else if block && token == .blockMappingStart then
            .after (.mappingStart properties.anchor) (blockMappingEvents handles fuel rest)
          else if properties.any then
            ([.scalar properties.anchor properties.tag "" .plain], some tokens)
          else .broken

/-- The events of a node that may be missing: it is when the next token ends its place. -/
def partEvents (handles : Handles) (block bare : Bool) (ends : Token → Bool) :
    Nat → List Token → Found
  | 0, _ => .broken
  | fuel + 1, tokens =>
    match tokens with
    | [] => .broken
    | token :: rest =>
      if ends token then ([.missing], some (token :: rest))
      else nodeEvents handles block bare fuel (token :: rest)

/-- The events of the entries of a block sequence. -/
def blockSequenceEvents (handles : Handles) : Nat → List Token → Found
  | 0, _ => .broken
  | fuel + 1, tokens =>
    match tokens with
    | .blockEntry :: rest =>
      (partEvents handles true false endsBlockEntry fuel rest).andThen
        (blockSequenceEvents handles fuel)
    | .blockEnd :: rest => ([.sequenceEnd], some rest)
    | _ => .broken

/-- The events of the entries of a sequence that is not indented in its mapping. -/
def bareSequenceEvents (handles : Handles) : Nat → List Token → Found
  | 0, _ => .broken
  | fuel + 1, tokens =>
    match tokens with
    | [] => .broken
    | .blockEntry :: rest =>
      (partEvents handles true false (fun token => endsBlockEntry token || endsMappingPart token)
        fuel rest).andThen (bareSequenceEvents handles fuel)
    | tokens => ([.sequenceEnd], some tokens)

/-- The events of the entries of a block mapping. -/
def blockMappingEvents (handles : Handles) : Nat → List Token → Found
  | 0, _ => .broken
  | fuel + 1, tokens =>
    match tokens with
    | .key :: rest =>
      (partEvents handles true true endsMappingPart fuel rest).andThen
        (blockValueEvents handles fuel)
    | .blockEnd :: rest => ([.mappingEnd], some rest)
    | _ => .broken

/-- The events of a value of a block mapping and of the entries after it. -/
def blockValueEvents (handles : Handles) : Nat → List Token → Found
  | 0, _ => .broken
  | fuel + 1, tokens =>
    match tokens with
    | .value :: rest =>
      (partEvents handles true true endsMappingPart fuel rest).andThen
        (blockMappingEvents handles fuel)
    | tokens => .between .missing tokens (blockMappingEvents handles fuel)

/-- The events of the entries of a flow sequence. `first` says that none was read before. -/
def flowSequenceEvents (handles : Handles) (first : Bool) : Nat → List Token → Found
  | 0, _ => .broken
  | fuel + 1, tokens =>
    match tokens with
    | .flowSequenceEnd :: rest => ([.sequenceEnd], some rest)
    | .flowEntry :: rest =>
      if first then .broken else flowSequenceEntryEvents handles fuel rest
    | tokens => if first then flowSequenceEntryEvents handles fuel tokens else .broken

/-- The events of one entry of a flow sequence and of the entries after it. A key makes the entry a
mapping of one pair. -/
def flowSequenceEntryEvents (handles : Handles) : Nat → List Token → Found
  | 0, _ => .broken
  | fuel + 1, tokens =>
    match tokens with
    | .flowSequenceEnd :: rest => ([.sequenceEnd], some rest)
    | .key :: rest =>
      .after (.mappingStart none) ((pairKeyEvents handles fuel rest).andThen fun tokens =>
        (pairValueEvents handles fuel tokens).andThen fun tokens =>
          .between .mappingEnd tokens (flowSequenceEvents handles false fuel))
    | tokens =>
      (nodeEvents handles false false fuel tokens).andThen (flowSequenceEvents handles false fuel)

/-- The events of the key of a pair in a flow sequence. A missing key takes the token in its place
with it. -/
def pairKeyEvents (handles : Handles) : Nat → List Token → Found
  | 0, _ => .broken
  | fuel + 1, tokens =>
    match tokens with
    | [] => .broken
    | token :: rest =>
      if endsPairKey token then ([.missing], some rest)
      else nodeEvents handles false false fuel (token :: rest)

/-- The events of the value of a pair in a flow sequence. -/
def pairValueEvents (handles : Handles) : Nat → List Token → Found
  | 0, _ => .broken
  | fuel + 1, tokens =>
    match tokens with
    | [] => .broken
    | .value :: rest => partEvents handles false false endsPairValue fuel rest
    | tokens => ([.missing], some tokens)

/-- The events of the entries of a flow mapping. `first` says that none was read before. -/
def flowMappingEvents (handles : Handles) (first : Bool) : Nat → List Token → Found
  | 0, _ => .broken
  | fuel + 1, tokens =>
    match tokens with
    | .flowMappingEnd :: rest => ([.mappingEnd], some rest)
    | .flowEntry :: rest =>
      if first then .broken else flowMappingEntryEvents handles fuel rest
    | tokens => if first then flowMappingEntryEvents handles fuel tokens else .broken

/-- The events of one entry of a flow mapping and of the entries after it. A node without the mark of
a key has no value. -/
def flowMappingEntryEvents (handles : Handles) : Nat → List Token → Found
  | 0, _ => .broken
  | fuel + 1, tokens =>
    match tokens with
    | .flowMappingEnd :: rest => ([.mappingEnd], some rest)
    | .key :: rest =>
      (partEvents handles false false endsFlowKey fuel rest).andThen fun tokens =>
        (flowValueEvents handles fuel tokens).andThen (flowMappingEvents handles false fuel)
    | tokens =>
      (nodeEvents handles false false fuel tokens).andThen fun tokens =>
        .between .missing tokens (flowMappingEvents handles false fuel)

/-- The events of a value of a flow mapping. -/
def flowValueEvents (handles : Handles) : Nat → List Token → Found
  | 0, _ => .broken
  | fuel + 1, tokens =>
    match tokens with
    | [] => .broken
    | .value :: rest => partEvents handles false false endsFlowValue fuel rest
    | tokens => ([.missing], some tokens)

end

/-! ## Documents -/

/-- The first document of a text. -/
structure Document where
  /-- Its events; none in a text without a document. -/
  events : List Event
  /-- Whether it is complete and nothing follows it. -/
  alone : Bool
deriving DecidableEq, Repr

/-- The directives before a document: the meanings of handles, and the tokens after them. A version
must be one of the known ones, and nothing may be given twice. -/
def readDirectives? (versionSeen : Bool) (handles : Handles) :
    List Token → Option (Handles × List Token)
  | .version major minor :: rest =>
    if versionSeen || major != 1 || !(minor == 1 || minor == 2) then none
    else readDirectives? true handles rest
  | .tagHandle handle meaning :: rest =>
    if handles.any fun entry => entry.1 == handle then none
    else readDirectives? versionSeen (handles ++ [(handle, meaning)]) rest
  | tokens => some (handles, tokens)

/-- Whether a document has no content. -/
def endsDocument : Token → Bool
  | .version _ _ | .tagHandle _ _ | .documentStart | .documentEnd | .endOfText => true
  | _ => false

/-- Whether a token starts a document with directives or a mark. -/
def startsMarked : Token → Bool
  | .version _ _ | .tagHandle _ _ | .documentStart => true
  | _ => false

/-- Whether no document follows. -/
def nothingFollows (tokens : List Token) : Bool :=
  (tokens.dropWhile fun token => token == .documentEnd) == [.endOfText]

/-- The document that events are found of. -/
def documentOf (found : Found) : Document :=
  ⟨found.1, found.2.any nothingFollows⟩

/-- The events of the first document among tokens. -/
def documentEvents (tokens : List Token) : Document :=
  let fuel := 4 * tokens.length + 4
  match tokens with
  | [] => ⟨[], false⟩
  | .endOfText :: _ => ⟨[], true⟩
  | token :: rest =>
    if startsMarked token then
      match readDirectives? false [] (token :: rest) with
      | some (handles, .documentStart :: content) =>
        documentOf (partEvents handles true false endsDocument fuel content)
      | _ => ⟨[], false⟩
    else documentOf (nodeEvents [] true false fuel (token :: rest))

/-- The first document of a text. -/
def readDocument (text : List Char) : Document :=
  documentEvents (tokensOf text)

end Sbom.Yaml
