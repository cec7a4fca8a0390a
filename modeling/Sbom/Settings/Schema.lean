import Sbom.Settings.Basic

/-!
# The schema of settings

A JSON schema, draft 7, for the written form of settings: the two sections with their fields, each
with its description and its default.
-/

namespace Sbom.Settings

/-- A member of an object that holds a string. -/
def stringMember (name value : String) : String × Json :=
  (name, .string value)

/-- The schema of one field. -/
def fieldSchema (name description kind : String) (standard : Json) : String × Json :=
  (name, .object [
    stringMember "description" description,
    ("default", standard),
    stringMember "type" kind])

/-- The schema of a section, without its name. -/
def sectionSchema (description : String) (fields : List (String × Json)) : Json :=
  .object [
    stringMember "description" description,
    stringMember "type" "object",
    ("properties", .object fields)]

/-- The place of a section in settings: a reference to the schema of the section. -/
def sectionReference (name description definition : String) (standard : Json) : String × Json :=
  (name, .object [
    stringMember "description" description,
    ("default", standard),
    ("allOf", .array [.object [stringMember "$ref" ("#/definitions/" ++ definition)]])])

/-- The value form with the members in ascending order of their names, as defaults are given. -/
def Behavior.schemaDefault (behavior : Behavior) : Json :=
  .object [
    stringMember "auto_ref_prefix" behavior.generatedMark,
    ("clear_auto_refs", .bool behavior.clearGeneratedRefs),
    ("log_degradations", .bool behavior.logDegradations),
    ("strict", .bool behavior.strict)]

/-- The value form with the members in ascending order of their names, as defaults are given. -/
def Output.schemaDefault (output : Output) : Json :=
  .object [
    stringMember "encoding" output.encoding,
    stringMember "spec_version" output.version]

/-- The schema of a behaviour. -/
def behaviorSchema (standard : Behavior) : Json :=
  sectionSchema "Behavior flags" [
    fieldSchema "auto_ref_prefix" "Prefix of generated references" "string"
      (.string standard.generatedMark),
    fieldSchema "clear_auto_refs" "Clear references generated at ingestion time" "boolean"
      (.bool standard.clearGeneratedRefs),
    fieldSchema "log_degradations" "Log each degradation at warn level" "boolean"
      (.bool standard.logDegradations),
    fieldSchema "strict" "Turn a non-empty degradation report into an error" "boolean"
      (.bool standard.strict)]

/-- The schema of what is written. -/
def outputSchema (standard : Output) : Json :=
  sectionSchema "Output-related configuration" [
    fieldSchema "encoding" "Output encoding (json or xml)" "string" (.string standard.encoding),
    fieldSchema "spec_version" "CycloneDX version to write (1.2 to 1.6)" "string"
      (.string standard.version)]

/-- The schema of settings, with the defaults of the given ones. -/
def schemaFor (standard : Settings) : Json :=
  .object [
    stringMember "$schema" "http://json-schema.org/draft-07/schema#",
    stringMember "title" "SerializerConfig",
    stringMember "description" "Serializer configuration, loadable from YAML.",
    stringMember "type" "object",
    ("properties", .object [
      sectionReference "behavior" "Conversion behavior flags" "BehaviorConfig"
        standard.behavior.schemaDefault,
      sectionReference "output" "Target version and encoding" "OutputConfig"
        standard.output.schemaDefault]),
    ("definitions", .object [
      ("BehaviorConfig", behaviorSchema standard.behavior),
      ("OutputConfig", outputSchema standard.output)])]

/-- The schema of settings. -/
def schema : Json :=
  schemaFor {}

end Sbom.Settings
