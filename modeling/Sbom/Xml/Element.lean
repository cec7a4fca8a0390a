/-!
# XML elements

An XML document as a tree of elements and its written form. An element holds other elements, or
text, or nothing. Every tag stands on a line of its own, indented by two spaces per level, except
that the text of an element and its closing tag follow without a break. The five markup characters
are escaped, and nothing else is.
-/

namespace Sbom.Xml

/-- An attribute: its name and its value. -/
abbrev Attribute := String × String

/-- An element with its attributes. -/
inductive Element where
  /-- An element without content, written as one tag. -/
  | empty (name : String) (attributes : List Attribute)
  /-- An element that holds text. -/
  | text (name : String) (attributes : List Attribute) (content : String)
  /-- An element that holds elements. -/
  | parent (name : String) (attributes : List Attribute) (children : List Element)

/-- How a character is written in text and in attribute values. -/
def escapeChar (c : Char) : List Char :=
  match c.toNat with
  | 0x3C => ['&', 'l', 't', ';']
  | 0x3E => ['&', 'g', 't', ';']
  | 0x26 => ['&', 'a', 'm', 'p', ';']
  | 0x27 => ['&', 'a', 'p', 'o', 's', ';']
  | 0x22 => ['&', 'q', 'u', 'o', 't', ';']
  | _ => [c]

/-- How text is written. -/
def escape (text : String) : List Char :=
  text.toList.flatMap escapeChar

/-- How an attribute is written, with the space before it. -/
def attributeText (pair : Attribute) : List Char :=
  ' ' :: (pair.1.toList ++ '=' :: '\x22' :: (escape pair.2 ++ ['\x22']))

/-- The inside of an opening tag. -/
def tagText (name : String) (attributes : List Attribute) : List Char :=
  name.toList ++ attributes.flatMap attributeText

/-- An opening tag. -/
def openTag (name : String) (attributes : List Attribute) : List Char :=
  '<' :: (tagText name attributes ++ ['>'])

/-- A tag that is an element of its own. -/
def emptyTag (name : String) (attributes : List Attribute) : List Char :=
  '<' :: (tagText name attributes ++ ['/', '>'])

/-- A closing tag. -/
def closeTag (name : String) : List Char :=
  '<' :: '/' :: (name.toList ++ ['>'])

/-- A line break and the indentation of the given depth. -/
def lineBreak (depth : Nat) : List Char :=
  '\n' :: List.replicate (2 * depth) ' '

mutual

/-- The pieces in which an element at the given depth is written. -/
def elementPieces (depth : Nat) : Element → List (List Char)
  | .empty name attributes => [lineBreak depth, emptyTag name attributes]
  | .text name attributes content =>
    [lineBreak depth, openTag name attributes, escape content, closeTag name]
  | .parent name attributes children =>
    lineBreak depth :: openTag name attributes ::
      (elementsPieces (depth + 1) children ++ [lineBreak depth, closeTag name])

/-- The pieces in which several elements at the given depth are written. -/
def elementsPieces (depth : Nat) : List Element → List (List Char)
  | [] => []
  | element :: rest => elementPieces depth element ++ elementsPieces depth rest

end

/-- The XML declaration. -/
def declaration : List Char :=
  "<?xml version=\"1.0\" encoding=\"UTF-8\"?>".toList

/-- The pieces in which a document with the given root element is written. -/
def documentPieces (root : Element) : List (List Char) :=
  declaration :: elementPieces 0 root

/-- Whether a character may occur in an XML 1.0 document. -/
def isXmlChar (c : Char) : Bool :=
  let code := c.toNat
  code == 0x9 || code == 0xA || code == 0xD || (0x20 ≤ code && code ≤ 0xD7FF) ||
    (0xE000 ≤ code && code ≤ 0xFFFD) || 0x10000 ≤ code

end Sbom.Xml
