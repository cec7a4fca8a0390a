/-!
# Relationship kinds

The kinds of relationship that an edge of a graph document can have, with their written names. Only
containment and dependency have a meaning in a component tree. An unknown name stands for `other`.
-/

namespace Sbom.Graph

/-- The kind of a relationship from one node to others. -/
inductive RelationshipKind where
  /-- The source amends the targets. -/
  | amends
  /-- The source is an ancestor of the targets. -/
  | ancestor
  /-- The targets are needed to build the source. -/
  | buildDependency
  /-- The targets are tools that build the source. -/
  | buildTool
  /-- The source contains the targets. -/
  | contains
  /-- The source is contained by the targets. -/
  | containedBy
  /-- The source is a copy of the targets. -/
  | copyOf
  /-- The source is a data file of the targets. -/
  | dataFile
  /-- The source lists the dependencies of the targets. -/
  | dependencyManifest
  /-- The source depends on the targets. -/
  | dependsOn
  /-- The source is a dependency of the targets. -/
  | dependencyOf
  /-- The source is a descendant of the targets. -/
  | descendant
  /-- The source describes the targets. -/
  | describes
  /-- The source is described by the targets. -/
  | describedBy
  /-- The targets are needed to develop the source. -/
  | devDependency
  /-- The targets are tools that develop the source. -/
  | devTool
  /-- The targets are distributed for the source. -/
  | distributionArtifact
  /-- The source documents the targets. -/
  | documentation
  /-- The source links the targets at run time. -/
  | dynamicLink
  /-- The source is an example of the targets. -/
  | exampleOf
  /-- The source was expanded from the targets. -/
  | expandedFromArchive
  /-- The source was added to the targets. -/
  | fileAdded
  /-- The source was deleted from the targets. -/
  | fileDeleted
  /-- The source was modified from the targets. -/
  | fileModified
  /-- The source generates the targets. -/
  | generates
  /-- The source was generated from the targets. -/
  | generatedFrom
  /-- The source is a metafile of the targets. -/
  | metafile
  /-- The targets are optional components of the source. -/
  | optionalComponent
  /-- The targets are optional dependencies of the source. -/
  | optionalDependency
  /-- The source packages the targets. -/
  | packages
  /-- The source is a patch of the targets. -/
  | patch
  /-- The targets are prerequisites of the source. -/
  | prerequisite
  /-- The source is a prerequisite of the targets. -/
  | prerequisiteFor
  /-- The targets are dependencies that the environment provides. -/
  | providedDependency
  /-- The source is a requirement of the targets. -/
  | requirementFor
  /-- The targets are needed to run the source. -/
  | runtimeDependency
  /-- The source specifies the targets. -/
  | specificationFor
  /-- The source links the targets at build time. -/
  | staticLink
  /-- The source tests the targets. -/
  | test
  /-- The source is a test case of the targets. -/
  | testCase
  /-- The targets are needed to test the source. -/
  | testDependency
  /-- The targets are tools that test the source. -/
  | testTool
  /-- The source is a variant of the targets. -/
  | variantOf
  /-- Any other relationship, and every name that is not known. -/
  | other
deriving DecidableEq, Repr

namespace RelationshipKind

/-- The written name of a kind. -/
def name : RelationshipKind → String
  | .amends => "amends"
  | .ancestor => "ancestor"
  | .buildDependency => "buildDependency"
  | .buildTool => "buildTool"
  | .contains => "contains"
  | .containedBy => "contained_by"
  | .copyOf => "copy"
  | .dataFile => "dataFile"
  | .dependencyManifest => "dependencyManifest"
  | .dependsOn => "dependsOn"
  | .dependencyOf => "dependencyOf"
  | .descendant => "descendant"
  | .describes => "describes"
  | .describedBy => "describedBy"
  | .devDependency => "devDependency"
  | .devTool => "devTool"
  | .distributionArtifact => "distributionArtifact"
  | .documentation => "documentation"
  | .dynamicLink => "dynamicLink"
  | .exampleOf => "example"
  | .expandedFromArchive => "expandedFromArchive"
  | .fileAdded => "fileAdded"
  | .fileDeleted => "fileDeleted"
  | .fileModified => "fileModified"
  | .generates => "generates"
  | .generatedFrom => "generatedFrom"
  | .metafile => "metafile"
  | .optionalComponent => "optionalComponent"
  | .optionalDependency => "optionalDependency"
  | .packages => "packages"
  | .patch => "patch"
  | .prerequisite => "prerequisite"
  | .prerequisiteFor => "prerequisiteFor"
  | .providedDependency => "providedDependency"
  | .requirementFor => "requirementFor"
  | .runtimeDependency => "runtimeDependency"
  | .specificationFor => "specificationFor"
  | .staticLink => "staticLink"
  | .test => "test"
  | .testCase => "testCase"
  | .testDependency => "testDependency"
  | .testTool => "testTool"
  | .variantOf => "variant"
  | .other => "other"

/-- All kinds, in the order of their names' declaration. -/
def all : List RelationshipKind := [
  .amends, .ancestor, .buildDependency, .buildTool, .contains, .containedBy, .copyOf, .dataFile,
  .dependencyManifest, .dependsOn, .dependencyOf, .descendant, .describes, .describedBy,
  .devDependency, .devTool, .distributionArtifact, .documentation, .dynamicLink, .exampleOf,
  .expandedFromArchive, .fileAdded, .fileDeleted, .fileModified, .generates, .generatedFrom,
  .metafile, .optionalComponent, .optionalDependency, .packages, .patch, .prerequisite,
  .prerequisiteFor, .providedDependency, .requirementFor, .runtimeDependency, .specificationFor,
  .staticLink, .test, .testCase, .testDependency, .testTool, .variantOf, .other]

/-- The kind with a written name. -/
def ofName (name : String) : RelationshipKind :=
  (all.find? fun kind => kind.name == name).getD .other

end RelationshipKind

end Sbom.Graph
