import Sbom.Calendar.Instant
import Sbom.Graph.Node
import Sbom.Graph.Relationship

/-!
# Graph documents

A graph document is a flat list of nodes with directed edges between them, the ids of the nodes it
describes, and metadata about itself.
-/

namespace Sbom.Graph

/-- A relationship from one node to others. -/
structure Edge where
  /-- The id of the source. -/
  source : String
  /-- The kind of the relationship. -/
  kind : RelationshipKind
  /-- The ids of the targets, in order. -/
  targets : List String
deriving DecidableEq, Repr

/-- How an edge is named in messages. -/
def Edge.shown (edge : Edge) : String :=
  edge.source ++ " --" ++ edge.kind.name ++ "--> [" ++ ", ".intercalate edge.targets ++ "]"

/-- The nodes of a document and the edges between them. -/
structure NodeList where
  /-- The nodes. -/
  nodes : List Node := []
  /-- The edges. -/
  edges : List Edge := []
  /-- The ids of the nodes that the document describes. -/
  rootElements : List String := []

namespace NodeList

/-- The first node with an id. -/
def node? (list : NodeList) (id : String) : Option Node :=
  list.nodes.find? fun node => node.id == id

/-- The list with one more node. -/
def addNode (list : NodeList) (node : Node) : NodeList :=
  { list with nodes := list.nodes ++ [node] }

/-- The list with one more edge. -/
def addEdge (list : NodeList) (edge : Edge) : NodeList :=
  { list with edges := list.edges ++ [edge] }

/-- The list with one more declared root. -/
def addRoot (list : NodeList) (id : String) : NodeList :=
  { list with rootElements := list.rootElements ++ [id] }

end NodeList

/-- A tool that took part in making the document. -/
structure Tool where
  /-- The name. -/
  name : String := ""
  /-- The version. -/
  version : String := ""
  /-- The vendor. -/
  vendor : String := ""
deriving DecidableEq, Repr

/-- The known classifications of a document. -/
inductive DocumentKind where
  /-- A classification that is given by its name. -/
  | other
  /-- Made from the design of the software. -/
  | design
  /-- Made from its sources. -/
  | source
  /-- Made while it was built. -/
  | build
  /-- Made by analysis of the result. -/
  | analyzed
  /-- Made where it is deployed. -/
  | deployed
  /-- Made by discovery in the field. -/
  | discovery
  /-- Made when it was taken out of service. -/
  | decommission
  /-- A classification that is not known. -/
  | unrecognized
deriving DecidableEq, Repr

namespace DocumentKind

/-- The written name of a classification. -/
def name : DocumentKind → String
  | .other => "OTHER"
  | .design => "DESIGN"
  | .source => "SOURCE"
  | .build => "BUILD"
  | .analyzed => "ANALYZED"
  | .deployed => "DEPLOYED"
  | .discovery => "DISCOVERY"
  | .decommission => "DECOMISSION"
  | .unrecognized => "UNRECOGNIZED"

/-- All classifications. -/
def all : List DocumentKind := [
  .other, .design, .source, .build, .analyzed, .deployed, .discovery, .decommission, .unrecognized]

/-- The classification with a written name. -/
def ofName (name : String) : DocumentKind :=
  (all.find? fun kind => kind.name == name).getD .unrecognized

end DocumentKind

/-- One classification of a document; without a kind it is in free text. -/
structure DocumentType where
  /-- The known classification, if it is one. -/
  kind : Option DocumentKind := none
  /-- The name. -/
  name : Option String := none
  /-- The description. -/
  description : Option String := none
deriving DecidableEq, Repr

/-- The classification of a known kind. -/
def DocumentType.ofKind (kind : DocumentKind) : DocumentType :=
  { kind := some kind }

/-- A classification in free text. -/
def DocumentType.ofText (name description : String) : DocumentType :=
  { name := some name, description := some description }

/-- What a document says about itself. -/
structure Metadata where
  /-- The identifier of the document. -/
  id : String := ""
  /-- The version of the document, in free text. -/
  version : String := ""
  /-- The name of the document. -/
  name : String := ""
  /-- When the document was made. -/
  date : Option Calendar.Instant := none
  /-- Who made it. -/
  authors : List Person := []
  /-- The tools that took part. -/
  tools : List Tool := []
  /-- The classifications. -/
  documentTypes : List DocumentType := []

/-- A graph document. -/
structure Document where
  /-- What the document says about itself. -/
  metadata : Metadata := {}
  /-- The nodes and edges. -/
  nodeList : NodeList := {}

end Sbom.Graph
