import ThreatGraph.Mapping.Builtin.Entry

/-!
# Built-in mapping: meta objects

What becomes of the properties of STIX meta objects.
-/

namespace ThreatGraph.Builtin

/-- Objects of the type marking-definition. -/
def markingDefinitionObject : ObjectMapping where
  typeName := "marking-definition"
  extensions := [
    ("definition-tlp", {
      typeName := some "tlp-marking"
      attributes := [
        text "tlp" "color"] }),
    ("definition-statement", {
      typeName := some "statement-marking"
      attributes := [
        text "statement" "statement"] })]
  attributes := [
    text "name" "name",
    unkept "definition_type" "definition-type"]

/-- Objects of the type language-content. -/
def languageContentObject : ObjectMapping where
  typeName := "language-content"
  attributes := [
    reference "content-of" "object_ref" "translation::translated-object",
    datetime "object_modified" "object-modified",
    dictionary "contents" "contents"]

/-- Objects of the type extension-definition. -/
def extensionDefinitionObject : ObjectMapping where
  typeName := "extension-definition"
  attributes := [
    text "name" "name",
    text "description" "description",
    text "schema" "schema",
    text "version" "version",
    texts "extension_types" "extension-type",
    texts "extension_properties" "extension-property"]

/-- All of them. -/
def metaObjects : Table ObjectMapping := [
  ("marking-definition", markingDefinitionObject),
  ("language-content", languageContentObject),
  ("extension-definition", extensionDefinitionObject)]

end ThreatGraph.Builtin
