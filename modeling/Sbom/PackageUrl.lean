import Sbom.Text.Decimal
import Sbom.Text.Percent

/-!
# Package URLs

A package URL names a package: `pkg:type/namespace/name@version?qualifiers#subpath`. It is read
from its ends: the scheme first, then subpath, qualifiers and version from the right, then the type
from the left; what remains is the namespace and the name. Here only the question whether a text is
a package URL is answered.
-/

namespace Sbom.PackageUrl

/-- The parts of a text between the occurrences of a character. -/
def splitOn (mark : Char) : List Char → List (List Char)
  | [] => [[]]
  | c :: rest =>
    if c = mark then [] :: splitOn mark rest
    else
      match splitOn mark rest with
      | [] => [[c]]
      | part :: parts => (c :: part) :: parts

/-- The parts of a text before and after the first occurrence of a character. -/
def cutFirst? (mark : Char) : List Char → Option (List Char × List Char)
  | [] => none
  | c :: rest =>
    if c = mark then some ([], rest)
    else (cutFirst? mark rest).map fun (before, after) => (c :: before, after)

/-- The parts of a text before and after the last occurrence of a character. -/
def cutLast? (mark : Char) (text : List Char) : Option (List Char × List Char) :=
  (cutFirst? mark text.reverse).map fun (after, before) => (before.reverse, after.reverse)

/-- The part before the last occurrence of a character, and the part after it if there is one. -/
def splitLast (mark : Char) (text : List Char) : List Char × Option (List Char) :=
  match cutLast? mark text with
  | some (before, after) => (before, some after)
  | none => (text, none)

/-- Whether a path segment stands for nothing: it is empty or made of one or two points. -/
def isIdle (segment : List Char) : Bool :=
  segment.isEmpty || segment == ['.'] || segment == ['.', '.']

/-- Whether a text decodes. -/
def decodes (text : List Char) : Bool :=
  (Text.percentDecode? text).isSome

/-- The segments of a path that stand for something. -/
def activeSegments (text : List Char) : List (List Char) :=
  (splitOn '/' text).filter fun segment => !isIdle segment

/-- Whether a subpath has a segment that stands for something, and every such segment decodes to a
proper segment. -/
def isSubpath (text : List Char) : Bool :=
  !(activeSegments text).isEmpty && (activeSegments text).all fun segment =>
    match Text.percentDecode? segment with
    | some decoded => !isIdle decoded && !decoded.contains '/'
    | none => false

/-- Whether a character is an ASCII letter or digit. -/
def isAlphanumeric (c : Char) : Bool :=
  ('a' ≤ c && c ≤ 'z') || ('A' ≤ c && c ≤ 'Z') || Text.isDigit c

/-- Whether a text is a name that does not start with a digit and uses only letters, digits and the
given signs. -/
def isName (signs : List Char) : List Char → Bool
  | [] => false
  | c :: rest =>
    !Text.isDigit c && (c :: rest).all fun d => isAlphanumeric d || signs.contains d

/-- Whether a qualifier with a value has a proper key and decodes. -/
def isQualifier (pair : List Char) : Bool :=
  match cutFirst? '=' pair with
  | none => true
  | some (_, []) => true
  | some (key, value) => isName ['-', '.', '_'] key && decodes value

/-- Whether the segments of a namespace that stand for something decode to proper segments. -/
def isNamespace (segments : List (List Char)) : Bool :=
  (segments.filter fun segment => !isIdle segment).all fun segment =>
    match Text.percentDecode? segment with
    | some decoded => !decoded.contains '/'
    | none => false

/-- The text without the given character at either end. -/
def trimSign (sign : Char) (text : List Char) : List Char :=
  ((text.dropWhile (· == sign)).reverse.dropWhile (· == sign)).reverse

/-- Whether a text is a package URL. -/
def isPackageUrl (text : String) : Bool :=
  match cutFirst? ':' text.toList with
  | none => false
  | some (scheme, rest) =>
    let (rest, subpath) := splitLast '#' (rest.dropWhile (· == '/'))
    let (rest, qualifiers) := splitLast '?' rest
    let (rest, version) := splitLast '@' rest
    scheme == ['p', 'k', 'g'] &&
      subpath.all isSubpath &&
      qualifiers.all (fun list => (splitOn '&' list).all isQualifier) &&
      version.all decodes &&
      match cutFirst? '/' rest with
      | none => false
      | some (type, path) =>
        let segments := (splitOn '/' (trimSign '/' path)).reverse
        isName ['-', '.', '+'] type &&
          match segments with
          | [] => false
          | name :: parents => !name.isEmpty && decodes name && isNamespace parents.reverse

end Sbom.PackageUrl
