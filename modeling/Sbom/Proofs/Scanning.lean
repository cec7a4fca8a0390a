import Sbom.Proofs.Escaping

/-!
# The tokens of a written element

An element whose tags have names and no attribute twice is read back as its tags with the escaped
texts between them. So the tokens of a written document nest the way its elements do, whatever texts
these hold.
-/

namespace Sbom.Xml

/-- The attributes of a tag as they are written. -/
def rawAttributes (attributes : List Attribute) : List RawAttribute :=
  attributes.map fun pair => (pair.1, escape pair.2)

@[simp] theorem map_fst_rawAttributes (attributes : List Attribute) :
    (rawAttributes attributes).map Prod.fst = attributes.map Prod.fst := by
  simp [rawAttributes]

mutual

/-- The tokens of an element at the given depth. -/
def Element.tokens (depth : Nat) : Element → List Token
  | .empty name attributes => [.tag .single name (rawAttributes attributes)]
  | .text name attributes content =>
    .tag .opening name (rawAttributes attributes) ::
      (dataTokens (escape content) ++ [.tag .closing name []])
  | .parent name attributes children =>
    .tag .opening name (rawAttributes attributes) ::
      (childTokens (depth + 1) children ++ [.data (lineBreak depth), .tag .closing name []])

/-- The tokens of the elements inside of another one, each on a line of its own. -/
def childTokens (depth : Nat) : List Element → List Token
  | [] => []
  | child :: rest => .data (lineBreak depth) :: (child.tokens depth ++ childTokens depth rest)

end

/-- Whether a tag can be written: its names are names, no attribute stands twice, and XML can carry
the values. -/
structure IsTag (name : String) (attributes : List Attribute) : Prop where
  name : isName name.toList = true
  keys : ∀ pair ∈ attributes, isName pair.1.toList = true
  distinct : (attributes.map Prod.fst).Nodup
  values : ∀ pair ∈ attributes, IsXmlString pair.2

/-- Whether an element can be written: all tags in it can, and XML can carry its texts. -/
inductive Element.IsWritable : Element → Prop where
  /-- An element without content. -/
  | empty {name : String} {attributes : List Attribute} (tag : IsTag name attributes) :
      IsWritable (.empty name attributes)
  /-- An element that holds text. -/
  | text {name : String} {attributes : List Attribute} {content : String}
      (tag : IsTag name attributes) (legal : IsXmlString content) :
      IsWritable (.text name attributes content)
  /-- An element that holds elements. -/
  | parent {name : String} {attributes : List Attribute} {children : List Element}
      (tag : IsTag name attributes) (inside : ∀ child ∈ children, child.IsWritable) :
      IsWritable (.parent name attributes children)

namespace Scanner

variable {scanner next last : Scanner} {completed more : List Token} {text rest : List Char}

/-- Whether a scanner that takes a text stands at another place then and completes tokens. -/
def Reads (scanner : Scanner) (text : List Char) (next : Scanner) (completed : List Token) : Prop :=
  scanner.run text = some (next, completed)

theorem Reads.nil : scanner.Reads [] scanner [] := rfl

/-- A character is taken in one step. -/
theorem Reads.cons {c : Char} (first : scanner.step c = some (next, completed))
    (others : next.Reads rest last more) : scanner.Reads (c :: rest) last (completed ++ more) := by
  rw [Reads] at others ⊢
  rw [run, first]
  simp only [others, Option.map_some]

theorem reads_cons_iff {c : Char} :
    scanner.Reads (c :: rest) last completed ↔
      ∃ middle first more, scanner.step c = some (middle, first) ∧
        middle.Reads rest last more ∧ completed = first ++ more := by
  constructor
  · intro reads
    rw [Reads, run] at reads
    split at reads
    case h_1 => cases reads
    case h_2 middle first step =>
      obtain ⟨⟨place, more⟩, others, same⟩ := Option.map_eq_some_iff.mp reads
      cases same
      exact ⟨middle, first, more, step, others, rfl⟩
  · rintro ⟨middle, first, more, step, others, rfl⟩
    exact .cons step others

/-- A text may be read in two parts. -/
theorem Reads.append (first : scanner.Reads text next completed)
    (others : next.Reads rest last more) :
    scanner.Reads (text ++ rest) last (completed ++ more) := by
  induction text generalizing scanner completed with
  | nil =>
      cases first
      exact others
  | cons c following inductionHypothesis =>
      obtain ⟨middle, head, tail, step, reads, rfl⟩ := reads_cons_iff.mp first
      rw [List.append_assoc]
      exact .cons step (inductionHypothesis reads)

/-- A scanner that collects the characters of a text has them when it took them all. -/
theorem reads_of_collects {place : List Char → Scanner} {seen : List Char}
    (collects : ∀ c ∈ text, ∀ seen, (place seen).step c = some (place (seen ++ [c]), [])) :
    (place seen).Reads text (place (seen ++ text)) [] := by
  induction text generalizing seen with
  | nil =>
      rw [List.append_nil]
      exact .nil
  | cons c following inductionHypothesis =>
      obtain ⟨first, others⟩ := List.forall_mem_cons.mp collects
      have reads : (place (seen ++ [c])).Reads following _ [] := inductionHypothesis others
      rw [List.append_assoc, List.singleton_append] at reads
      exact .cons (first seen) reads

theorem reads_plain {seen : List Char} (noTag : '<' ∉ text) :
    (data seen).Reads text (data (seen ++ text)) [] :=
  reads_of_collects fun c member _ => if_neg fun same : c = '<' => noTag (same ▸ member)

end Scanner

/-- A name starts with a character that may start it, and all others are its characters. -/
theorem isName_eq_true_iff {text : List Char} :
    isName text = true ↔ ∃ first rest, text = first :: rest ∧ isNameStart first = true ∧
      ∀ c ∈ rest, isNameChar c = true := by
  cases text with
  | nil => simp [isName]
  | cons first rest =>
      simp only [isName, List.head?_cons, Option.any_some, List.all_cons, Bool.and_eq_true,
        List.all_eq_true, List.cons.injEq, isNameChar, Bool.or_eq_true]
      grind

theorem isNameChar_of_isName {text : List Char} (named : isName text = true) :
    ∀ c ∈ text, isNameChar c = true := by
  rw [isName, Bool.and_eq_true, List.all_eq_true] at named
  exact named.2

namespace Scanner

variable {name : String} {attributes : List Attribute} {done : List RawAttribute}

/-- An attribute is read as its name with the escaped text of its value. -/
theorem reads_attribute {pair : Attribute} (named : isName pair.1.toList = true) :
    (between name done).Reads (attributeText pair)
      (between name (done ++ [(pair.1, escape pair.2)])) [] := by
  have keyRead : (key name done []).Reads pair.1.toList (key name done pair.1.toList) [] :=
    reads_of_collects fun c member _ => if_pos (isNameChar_of_isName named c member)
  have equalsRead : (key name done pair.1.toList).step '=' = some (.equals name done pair.1, []) := by
    simp [step, named, isNameChar, isNameStart]
  have opened : (equals name done pair.1).step '\x22' = some (value name done pair.1 [], []) := rfl
  have valueRead : (value name done pair.1 []).Reads (escape pair.2)
      (value name done pair.1 (escape pair.2)) [] :=
    reads_of_collects fun c member _ =>
      if_neg fun same : c = '\x22' => quote_not_mem_escape pair.2 (same ▸ member)
  have closed : (value name done pair.1 (escape pair.2)).Reads ['\x22']
      (between name (done ++ [(pair.1, escape pair.2)])) [] := rfl
  have spaced : (between name done).step ' ' = some (key name done [], []) := rfl
  exact .cons spaced (keyRead.append (.cons equalsRead (.cons opened (valueRead.append closed))))

/-- The attributes of a tag are read in order. -/
theorem reads_attributes (keys : ∀ pair ∈ attributes, isName pair.1.toList = true) :
    (between name done).Reads (attributes.flatMap attributeText)
      (between name (done ++ rawAttributes attributes)) [] := by
  induction attributes generalizing done with
  | nil =>
      rw [rawAttributes, List.map_nil, List.append_nil]
      exact .nil
  | cons pair others inductionHypothesis =>
      obtain ⟨named, othersNamed⟩ := List.forall_mem_cons.mp keys
      have first : (between name done).Reads (attributeText pair) _ [] := reads_attribute named
      have reads := first.append (inductionHypothesis othersNamed)
      rwa [List.append_assoc, List.singleton_append] at reads

/-- Where the name of a tag ends, the scanner stands before its attributes. -/
theorem reads_name_iff {seen : List Char} {c : Char} (ends : isNameChar c = false) :
    (Scanner.name seen).Reads (c :: rest) last completed ↔
      (between (String.ofList seen) []).Reads (c :: rest) last completed := by
  simp [reads_cons_iff, step, ends]

/-- What follows the name and the attributes of a tag is read with these at hand. -/
theorem reads_tagText {c : Char} (tag : IsTag name attributes) (ends : isNameChar c = false)
    (others : (between name (rawAttributes attributes)).Reads (c :: rest) last completed) :
    markup.Reads (tagText name attributes ++ c :: rest) last completed := by
  obtain ⟨first, following, spelled, starts, collected⟩ := isName_eq_true_iff.mp tag.name
  have firstRead : markup.step first = some (.name [first], []) := by
    have notMark : first ≠ '?' ∧ first ≠ '/' := by
      constructor <;> rintro rfl <;> simp [isNameStart] at starts
    simp [step, notMark, starts]
  have nameRead : (Scanner.name [first]).Reads following (.name name.toList) [] := by
    rw [spelled]
    exact reads_of_collects fun c member _ => if_pos (collected c member)
  have attributesRead : (between name []).Reads (attributes.flatMap attributeText ++ c :: rest) last
      completed := (reads_attributes tag.keys).append others
  -- The name ends before its first attribute, or where the tag does.
  have nameEnds : ∃ d following, attributes.flatMap attributeText ++ c :: rest = d :: following ∧
      isNameChar d = false := by
    cases attributes with
    | nil => exact ⟨c, rest, rfl, ends⟩
    | cons pair others => exact ⟨' ', _, rfl, rfl⟩
  obtain ⟨d, tail, split, endsThere⟩ := nameEnds
  rw [split, ← String.ofList_toList (s := name), ← reads_name_iff endsThere, ← split]
    at attributesRead
  rw [tagText, List.append_assoc, spelled]
  exact .cons firstRead (nameRead.append attributesRead)

section Tags

variable {seen : List Char}

/-- An opening tag is read as one. -/
theorem reads_openTag (tag : IsTag name attributes) :
    (data seen).Reads (openTag name attributes) (data [])
      (dataTokens seen ++ [.tag .opening name (rawAttributes attributes)]) :=
  .cons rfl (reads_tagText tag rfl rfl)

/-- A tag that is an element of its own is read as one. -/
theorem reads_emptyTag (tag : IsTag name attributes) :
    (data seen).Reads (emptyTag name attributes) (data [])
      (dataTokens seen ++ [.tag .single name (rawAttributes attributes)]) :=
  .cons rfl (reads_tagText tag rfl rfl)

/-- A closing tag is read as one. -/
theorem reads_closeTag (named : isName name.toList = true) :
    (data seen).Reads (closeTag name) (data []) (dataTokens seen ++ [.tag .closing name []]) := by
  have nameRead : (closing []).Reads name.toList (closing name.toList) [] :=
    reads_of_collects fun c member _ => if_pos (isNameChar_of_isName named c member)
  have closed : (closing name.toList).Reads ['>'] (data []) [.tag .closing name []] := by
    simp [Reads, run, step, named, isNameChar, isNameStart]
  have slashRead : markup.step '/' = some (.closing [], []) := rfl
  exact .cons rfl (.cons slashRead (nameRead.append closed))

end Tags

/-- The line break before a tag is text. -/
theorem reads_lineBreak (depth : Nat) :
    (data []).Reads (lineBreak depth) (data (lineBreak depth)) [] := by
  refine reads_plain fun member => ?_
  simp [lineBreak, List.mem_replicate] at member

end Scanner

open Scanner (reads_plain reads_lineBreak reads_openTag reads_emptyTag reads_closeTag)

mutual

/-- An element is read as its tokens. -/
theorem reads_element (depth : Nat) : (element : Element) → element.IsWritable →
    (Scanner.data []).Reads (elementPieces depth element).flatten (.data [])
      (.data (lineBreak depth) :: element.tokens depth)
  | .empty name attributes, .empty tag => by
    simp only [elementPieces, List.flatten_cons, List.flatten_nil, List.append_nil]
    exact (reads_lineBreak depth).append (reads_emptyTag tag)
  | .text name attributes content, .text tag _ => by
    have contentRead : (Scanner.data []).Reads (escape content) (.data (escape content)) [] :=
      reads_plain (isPlain_escape content).noTag
    simp only [elementPieces, List.flatten_cons, List.flatten_nil, List.append_nil]
    exact (reads_lineBreak depth).append
      ((reads_openTag tag).append (contentRead.append (reads_closeTag tag.name)))
  | .parent name attributes children, .parent tag inside => by
    have childrenRead := reads_elements (depth + 1) children inside
    simp only [elementPieces, List.flatten_cons, List.flatten_append, List.flatten_nil,
      List.append_nil]
    exact (reads_lineBreak depth).append ((reads_openTag tag).append
      (childrenRead.append ((reads_lineBreak depth).append (reads_closeTag tag.name))))

theorem reads_elements (depth : Nat) : (elements : List Element) →
    (∀ element ∈ elements, element.IsWritable) →
    (Scanner.data []).Reads (elementsPieces depth elements).flatten (.data [])
      (childTokens depth elements)
  | [], _ => .nil
  | first :: rest, writable => by
    obtain ⟨firstWritable, restWritable⟩ := List.forall_mem_cons.mp writable
    rw [elementsPieces, List.flatten_append]
    exact (reads_element depth first firstWritable).append (reads_elements depth rest restWritable)

end

/-- The name of an element. -/
def Element.name : Element → String
  | .empty name _ => name
  | .text name _ _ => name
  | .parent name _ _ => name

theorem isContent_dataTokens (text : List Char) : IsContent (dataTokens text) := by
  unfold dataTokens
  split
  · exact .nil
  · exact .data .nil

mutual

/-- The tokens of an element are those of one: its tags match, and so do all tags in between. -/
theorem isElement_tokens (depth : Nat) :
    (element : Element) → IsElement element.name (element.tokens depth)
  | .empty _ _ => .single
  | .text _ _ content => .pair (isContent_dataTokens (escape content))
  | .parent name attributes children => by
    have lastBreak : IsContent [.data (lineBreak depth)] := .data .nil
    have inside := isContent_childTokens (depth + 1) children lastBreak
    have element : IsElement name (.tag .opening name (rawAttributes attributes) :: _) :=
      .pair inside
    rwa [List.append_assoc, List.singleton_append] at element

theorem isContent_childTokens (depth : Nat) {rest : List Token} : (children : List Element) →
    IsContent rest → IsContent (childTokens depth children ++ rest)
  | [], others => others
  | child :: following, others => by
    rw [childTokens, List.cons_append, List.append_assoc]
    exact .data (.element (isElement_tokens depth child)
      (isContent_childTokens depth following others))

end

/-- What a tag is written from makes its token legal. -/
theorem isLegal_tag {form : TagForm} {name : String} {attributes : List Attribute}
    (tag : IsTag name attributes) : (Token.tag form name (rawAttributes attributes)).IsLegal := by
  refine ⟨(map_fst_rawAttributes attributes).symm ▸ tag.distinct, fun raw member => ?_⟩
  obtain ⟨pair, _, rfl⟩ := List.mem_map.mp member
  exact ⟨isPlain_escape pair.2, quote_not_mem_escape pair.2⟩

theorem isLegal_closing {form : TagForm} {name : String} : (Token.tag form name []).IsLegal := by
  simp [Token.IsLegal]

theorem isLegal_lineBreak (depth : Nat) : (Token.data (lineBreak depth)).IsLegal :=
  isPlain_of_not_mem (by simp [lineBreak, List.mem_replicate])
    (by simp [lineBreak, List.mem_replicate])

theorem isLegal_dataTokens (content : String) :
    ∀ token ∈ dataTokens (escape content), token.IsLegal := by
  unfold dataTokens
  split
  · exact fun _ member => absurd member List.not_mem_nil
  · exact List.forall_mem_singleton.mpr (isPlain_escape content)

mutual

/-- The tags of an element that can be written have no attribute twice, and no text has markup. -/
theorem isLegal_tokens (depth : Nat) : (element : Element) → element.IsWritable →
    ∀ token ∈ element.tokens depth, token.IsLegal
  | .empty name attributes, .empty tag => by
    rw [Element.tokens, List.forall_mem_singleton]
    exact isLegal_tag tag
  | .text name attributes content, .text tag _ => by
    rw [Element.tokens, List.forall_mem_cons, List.forall_mem_append, List.forall_mem_singleton]
    exact ⟨isLegal_tag tag, isLegal_dataTokens content, isLegal_closing⟩
  | .parent name attributes children, .parent tag inside => by
    rw [Element.tokens, List.forall_mem_cons, List.forall_mem_append, List.forall_mem_cons,
      List.forall_mem_singleton]
    exact ⟨isLegal_tag tag, isLegal_childTokens (depth + 1) children inside,
      isLegal_lineBreak depth, isLegal_closing⟩

theorem isLegal_childTokens (depth : Nat) : (children : List Element) →
    (∀ child ∈ children, child.IsWritable) → ∀ token ∈ childTokens depth children, token.IsLegal
  | [], _ => fun _ member => absurd member List.not_mem_nil
  | child :: rest, writable => by
    obtain ⟨childWritable, restWritable⟩ := List.forall_mem_cons.mp writable
    rw [childTokens, List.forall_mem_cons, List.forall_mem_append]
    exact ⟨isLegal_lineBreak depth, isLegal_tokens depth child childWritable,
      isLegal_childTokens depth rest restWritable⟩

end

theorem isChar_of_isNameChar {c : Char} (named : isNameChar c = true) : IsChar c := by
  simp only [isNameChar, isNameStart, Bool.or_eq_true, Bool.and_eq_true, decide_eq_true_eq,
    beq_iff_eq] at named
  exact isChar_of_ascii (by omega) (by omega)

theorem isChar_of_isName {text : List Char} (named : isName text = true) : ∀ c ∈ text, IsChar c :=
  fun c member => isChar_of_isNameChar (isNameChar_of_isName named c member)

section Characters

variable {name : String} {attributes : List Attribute}

/-- XML can carry every character of a tag. -/
theorem isChar_of_mem_tagText (tag : IsTag name attributes) :
    ∀ c ∈ tagText name attributes, IsChar c := by
  rw [tagText, List.forall_mem_append, List.forall_mem_flatMap]
  refine ⟨isChar_of_isName tag.name, fun pair member => ?_⟩
  simp only [attributeText, List.forall_mem_cons, List.forall_mem_append]
  exact ⟨by decide, isChar_of_isName (tag.keys pair member), by decide, by decide,
    isChar_of_mem_escape (tag.values pair member), by decide, by simp⟩

theorem isChar_of_mem_openTag (tag : IsTag name attributes) :
    ∀ c ∈ openTag name attributes, IsChar c := by
  simp only [openTag, List.forall_mem_cons, List.forall_mem_append]
  exact ⟨by decide, isChar_of_mem_tagText tag, by decide, by simp⟩

theorem isChar_of_mem_emptyTag (tag : IsTag name attributes) :
    ∀ c ∈ emptyTag name attributes, IsChar c := by
  simp only [emptyTag, List.forall_mem_cons, List.forall_mem_append]
  exact ⟨by decide, isChar_of_mem_tagText tag, by decide, by decide, by simp⟩

theorem isChar_of_mem_closeTag (named : isName name.toList = true) :
    ∀ c ∈ closeTag name, IsChar c := by
  simp only [closeTag, List.forall_mem_cons, List.forall_mem_append]
  exact ⟨by decide, by decide, isChar_of_isName named, by decide, by simp⟩

theorem isChar_of_mem_lineBreak (depth : Nat) : ∀ c ∈ lineBreak depth, IsChar c := by
  rw [lineBreak, List.forall_mem_cons]
  exact ⟨by decide, fun c member => List.eq_of_mem_replicate member ▸ by decide⟩

mutual

/-- XML can carry every character of an element that can be written. -/
theorem isChar_of_mem_elementPieces (depth : Nat) : (element : Element) → element.IsWritable →
    ∀ c ∈ (elementPieces depth element).flatten, IsChar c
  | .empty name attributes, .empty tag => by
    simp only [elementPieces, List.flatten_cons, List.flatten_nil, List.forall_mem_append]
    exact ⟨isChar_of_mem_lineBreak depth, isChar_of_mem_emptyTag tag, by simp⟩
  | .text name attributes content, .text tag legal => by
    simp only [elementPieces, List.flatten_cons, List.flatten_nil, List.forall_mem_append]
    exact ⟨isChar_of_mem_lineBreak depth, isChar_of_mem_openTag tag,
      isChar_of_mem_escape legal, isChar_of_mem_closeTag tag.name, by simp⟩
  | .parent name attributes children, .parent tag inside => by
    simp only [elementPieces, List.flatten_cons, List.flatten_append, List.flatten_nil,
      List.forall_mem_append]
    exact ⟨isChar_of_mem_lineBreak depth, isChar_of_mem_openTag tag,
      isChar_of_mem_elementsPieces (depth + 1) children inside,
      isChar_of_mem_lineBreak depth, isChar_of_mem_closeTag tag.name, by simp⟩

theorem isChar_of_mem_elementsPieces (depth : Nat) : (elements : List Element) →
    (∀ element ∈ elements, element.IsWritable) →
    ∀ c ∈ (elementsPieces depth elements).flatten, IsChar c
  | [], _ => fun _ member => absurd member List.not_mem_nil
  | first :: rest, writable => by
    obtain ⟨firstWritable, restWritable⟩ := List.forall_mem_cons.mp writable
    rw [elementsPieces, List.flatten_append, List.forall_mem_append]
    exact ⟨isChar_of_mem_elementPieces depth first firstWritable,
      isChar_of_mem_elementsPieces depth rest restWritable⟩

end

end Characters

/-- The XML declaration is an instruction of its own. -/
theorem reads_declaration : (Scanner.data []).Reads declaration (.data [])
    [.instruction "xml version=\"1.0\" encoding=\"UTF-8\"".toList] := by
  rw [Scanner.Reads]
  decide

/-- An element that can be written makes a well-formed document. -/
theorem Element.IsWritable.isDocument {root : Element} (writable : root.IsWritable) :
    IsDocument ((documentPieces root).flatten ++ ['\n']) root.name (root.tokens 0) := by
  have text : (documentPieces root).flatten ++ ['\n'] =
      declaration ++ ((elementPieces 0 root).flatten ++ ['\n']) := by
    rw [documentPieces, List.flatten_cons, List.append_assoc]
  refine ⟨?_, isElement_tokens 0 root, isLegal_tokens 0 root writable, ?_⟩
  · have lastBreak : (Scanner.data []).Reads ['\n'] (.data ['\n']) [] := rfl
    have reads := reads_declaration.append ((reads_element 0 root writable).append lastBreak)
    rw [text, tokens?, reads]
    simp [dataTokens, lineBreak]
  · have plainDeclaration : declaration.all isXmlChar = true := by decide
    rw [text, List.forall_mem_append, List.forall_mem_append, List.forall_mem_singleton]
    exact ⟨fun c member => isXmlChar_iff.mp (List.all_eq_true.mp plainDeclaration c member),
      isChar_of_mem_elementPieces 0 root writable, by decide⟩

end Sbom.Xml
