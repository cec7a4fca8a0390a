import Sbom.Xml.Element

/-!
# Reading markup

The tokens of an XML text: tags, processing instructions and the text between them. The scanner is a
state machine that takes one character at a time. It wants one space before an attribute, double
quotes around its value and no other space inside of a tag, and it knows the names of XML 1.0 in
ASCII. What stands in quotes or between tags is kept as it is written; `unescape?` resolves the
references in it. Whether tags match is not a matter of the scanner: `IsElement` is the grammar of
tokens that says so.
-/

namespace Sbom.Xml

/-- The form of a tag. -/
inductive TagForm where
  /-- A tag that starts an element. -/
  | opening
  /-- A tag that ends an element. -/
  | closing
  /-- A tag that is an element of its own. -/
  | single
deriving DecidableEq, Repr

/-- An attribute as it is written: its name and what stands between the quotes. -/
abbrev RawAttribute := String × List Char

/-- A token of an XML text. -/
inductive Token where
  /-- A processing instruction, or the XML declaration. -/
  | instruction (text : List Char)
  /-- A tag. -/
  | tag (form : TagForm) (name : String) (attributes : List RawAttribute)
  /-- The text between two tags. -/
  | data (text : List Char)
deriving DecidableEq, Repr

/-- The token of a text that stands between two tags; an empty one is none. -/
def dataTokens (text : List Char) : List Token :=
  if text.isEmpty then [] else [.data text]

/-- Whether a name may start with a character. -/
def isNameStart (c : Char) : Bool :=
  let code := c.toNat
  (0x41 ≤ code && code ≤ 0x5A) || (0x61 ≤ code && code ≤ 0x7A) || code == 0x5F || code == 0x3A

/-- Whether a name may have a character. -/
def isNameChar (c : Char) : Bool :=
  let code := c.toNat
  isNameStart c || (0x30 ≤ code && code ≤ 0x39) || code == 0x2D || code == 0x2E

/-- Whether a text is a name. -/
def isName (text : List Char) : Bool :=
  text.head?.any isNameStart && text.all isNameChar

/-- Where the scanner stands. -/
inductive Scanner where
  /-- Between tags. -/
  | data (seen : List Char)
  /-- After the bracket that opens a tag. -/
  | markup
  /-- In a processing instruction. -/
  | instruction (seen : List Char)
  /-- In the name of a closing tag. -/
  | closing (seen : List Char)
  /-- In the name of a tag. -/
  | name (seen : List Char)
  /-- After the name of a tag, or after one of its attributes. -/
  | between (name : String) (attributes : List RawAttribute)
  /-- In the name of an attribute. -/
  | key (name : String) (attributes : List RawAttribute) (seen : List Char)
  /-- After the equals sign of an attribute. -/
  | equals (name : String) (attributes : List RawAttribute) (key : String)
  /-- In the value of an attribute. -/
  | value (name : String) (attributes : List RawAttribute) (key : String) (seen : List Char)
  /-- After the slash of a tag that is an element of its own. -/
  | slash (name : String) (attributes : List RawAttribute)
deriving DecidableEq, Repr

namespace Scanner

/-- Takes what follows the name of a tag or one of its attributes. -/
def continueTag (name : String) (attributes : List RawAttribute) (c : Char) :
    Option (Scanner × List Token) :=
  if c = ' ' then some (.key name attributes [], [])
  else if c = '/' then some (.slash name attributes, [])
  else if c = '>' then some (.data [], [.tag .opening name attributes])
  else none

/-- Takes a character. The tokens are those that it completes. -/
def step : Scanner → Char → Option (Scanner × List Token)
  | .data seen, c =>
    if c = '<' then some (.markup, dataTokens seen) else some (.data (seen ++ [c]), [])
  | .markup, c =>
    if c = '?' then some (.instruction [], [])
    else if c = '/' then some (.closing [], [])
    else if isNameStart c then some (.name [c], [])
    else none
  | .instruction seen, c =>
    if c = '>' ∧ seen.getLast? = some '?' then some (.data [], [.instruction seen.dropLast])
    else some (.instruction (seen ++ [c]), [])
  | .closing seen, c =>
    if isNameChar c then some (.closing (seen ++ [c]), [])
    else if c = '>' ∧ isName seen then
      some (.data [], [.tag .closing (String.ofList seen) []])
    else none
  | .name seen, c =>
    if isNameChar c then some (.name (seen ++ [c]), [])
    else continueTag (String.ofList seen) [] c
  | .between tag attributes, c => continueTag tag attributes c
  | .key tag attributes seen, c =>
    if isNameChar c then some (.key tag attributes (seen ++ [c]), [])
    else if c = '=' ∧ isName seen then some (.equals tag attributes (String.ofList seen), [])
    else none
  | .equals tag attributes written, c =>
    if c = '\x22' then some (.value tag attributes written [], []) else none
  | .value tag attributes written seen, c =>
    if c = '\x22' then some (.between tag (attributes ++ [(written, seen)]), [])
    else some (.value tag attributes written (seen ++ [c]), [])
  | .slash tag attributes, c =>
    if c = '>' then some (.data [], [.tag .single tag attributes]) else none

/-- Takes the characters of a text. -/
def run : Scanner → List Char → Option (Scanner × List Token)
  | scanner, [] => some (scanner, [])
  | scanner, c :: rest =>
    match scanner.step c with
    | none => none
    | some (next, completed) => (run next rest).map fun (last, more) => (last, completed ++ more)

end Scanner

/-- The tokens of a text, unless it breaks off inside of markup or has markup that is none. -/
def tokens? (text : List Char) : Option (List Token) :=
  match Scanner.run (.data []) text with
  | some (.data seen, tokens) => some (tokens ++ dataTokens seen)
  | _ => none

/-- The references that stand for markup characters, without their marks. -/
def references : List (List Char × Char) := [
  (['l', 't'], '<'), (['g', 't'], '>'), (['a', 'm', 'p'], '&'), (['a', 'p', 'o', 's'], '\''),
  (['q', 'u', 'o', 't'], '\x22')]

/-- The text that a written one stands for; `reference` is the beginning of the reference it starts
in. There is none if an ampersand does not start a reference. -/
def unescapeFrom? : (reference : Option (List Char)) → List Char → Option (List Char)
  | none, [] => some []
  | some _, [] => none
  | none, c :: rest =>
    if c = '&' then unescapeFrom? (some []) rest else (unescapeFrom? none rest).map (c :: ·)
  | some seen, c :: rest =>
    if c = ';' then
      match references.lookup seen with
      | none => none
      | some d => (unescapeFrom? none rest).map (d :: ·)
    else unescapeFrom? (some (seen ++ [c])) rest

/-- The text that a written one stands for. -/
def unescape? (text : List Char) : Option (List Char) :=
  unescapeFrom? none text

/-- Whether a written text has no markup: no bracket that opens a tag, and an ampersand only where a
reference starts. -/
structure IsPlain (text : List Char) : Prop where
  noTag : '<' ∉ text
  references : (unescape? text).isSome

/-- Whether a token has what it may have: a tag no attribute twice and no markup or quote in a value,
and text no markup. -/
def Token.IsLegal : Token → Prop
  | .instruction _ => True
  | .tag _ _ attributes =>
    (attributes.map Prod.fst).Nodup ∧
      ∀ pair ∈ attributes, IsPlain pair.2 ∧ '\x22' ∉ pair.2
  | .data text => IsPlain text

mutual

/-- The tokens of an element: one tag, or an opening and a closing tag of one name with the content
between them. -/
inductive IsElement : (name : String) → List Token → Prop where
  /-- An element without content. -/
  | single {name : String} {attributes : List RawAttribute} :
      IsElement name [.tag .single name attributes]
  /-- An element with content. -/
  | pair {name : String} {attributes : List RawAttribute} {content : List Token}
      (inside : IsContent content) :
      IsElement name (.tag .opening name attributes :: (content ++ [.tag .closing name []]))

/-- The tokens between the tags of an element: text and elements. -/
inductive IsContent : List Token → Prop where
  /-- No content. -/
  | nil : IsContent []
  /-- Text before other content. -/
  | data {text : List Char} {rest : List Token} (others : IsContent rest) :
      IsContent (.data text :: rest)
  /-- An element before other content. -/
  | element {name : String} {tokens rest : List Token} (first : IsElement name tokens)
      (others : IsContent rest) : IsContent (tokens ++ rest)

end

/-- The characters of XML 1.0: tab, line feed and carriage return, and every other character that is
no control, no surrogate and neither U+FFFE nor U+FFFF. -/
def IsChar (c : Char) : Prop :=
  c.toNat = 0x9 ∨ c.toNat = 0xA ∨ c.toNat = 0xD ∨ (0x20 ≤ c.toNat ∧ c.toNat ≤ 0xD7FF) ∨
    (0xE000 ≤ c.toNat ∧ c.toNat ≤ 0xFFFD) ∨ (0x10000 ≤ c.toNat ∧ c.toNat ≤ 0x10FFFF)

instance : DecidablePred IsChar := fun _ => inferInstanceAs (Decidable (_ ∨ _))

/-- Whether a text is a well-formed XML document: the declaration, one element of the given name and
tokens, and a line break after each of them. -/
structure IsDocument (text : List Char) (name : String) (element : List Token) : Prop where
  reads : tokens? text = some (
    .instruction "xml version=\"1.0\" encoding=\"UTF-8\"".toList :: .data ['\n'] ::
      (element ++ [.data ['\n']]))
  nested : IsElement name element
  legal : ∀ token ∈ element, token.IsLegal
  characters : ∀ c ∈ text, IsChar c

/-- What a tag is apart from the values of its attributes. -/
structure Mark where
  /-- The form. -/
  form : TagForm
  /-- The name. -/
  name : String
  /-- The names of the attributes. -/
  attributes : List String
deriving DecidableEq, Repr

/-- What a token is apart from text. -/
def Token.mark? : Token → Option Mark
  | .tag form name attributes => some ⟨form, name, attributes.map Prod.fst⟩
  | .instruction _ => none
  | .data _ => none

/-- The tags of a sequence of tokens, without the values of their attributes. -/
def marks (tokens : List Token) : List Mark :=
  tokens.filterMap Token.mark?

end Sbom.Xml
