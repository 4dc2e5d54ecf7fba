import ThreatGraph.Json.Reader
import ThreatGraph.Mapping.Basic
import ThreatGraph.Mapping.Decoding

/-!
# Loading a mapping

A mapping is put together from its documents, each of which may have failed to load: the four
object tables are merged, the class lists are turned around, and the whole is checked. The first
failure in the order of the documents wins, where the merging comes right after each table and
the check comes last.
-/

namespace ThreatGraph

/-- The documents, or why they cannot be had. -/
structure Sources where
  classes : Except MappingDefect Classes
  domainObjects : Except MappingDefect (Table ObjectMapping)
  relationshipObjects : Except MappingDefect (Table ObjectMapping)
  cyberObservables : Except MappingDefect (Table ObjectMapping)
  metaObjects : Except MappingDefect (Table ObjectMapping)
  commonAttributes : Except MappingDefect (Table AttributeInfo)
  composites : Except MappingDefect (Table CompositeMapping)
  relationRoles : Except MappingDefect RoleTable
  keyValues : Except MappingDefect (Table KeyValueMapping)
  dictionary : Except MappingDefect DictionaryMapping

/-- Documents that are all at hand. -/
def Documents.sources (d : Documents) : Sources where
  classes := .ok d.classes
  domainObjects := .ok d.domainObjects
  relationshipObjects := .ok d.relationshipObjects
  cyberObservables := .ok d.cyberObservables
  metaObjects := .ok d.metaObjects
  commonAttributes := .ok d.commonAttributes
  composites := .ok d.composites
  relationRoles := .ok d.relationRoles
  keyValues := .ok d.keyValues
  dictionary := .ok d.dictionary

/-- The document of a name among texts, decoded. -/
def decodeDocument {α : Type} (texts : Table String) (name : DocumentName)
    (decode : Json → Option α) : Except MappingDefect α :=
  match texts.get? name.fileName with
  | none => .error (.missing (.document name))
  | some text =>
    match (Json.parse? Json.depthLimit text).bind decode with
    | none => .error (.malformed name)
    | some document => .ok document

/-- Documents to be decoded from texts, which are filed under the names of their files. -/
def Sources.ofTexts (texts : Table String) : Sources :=
  let objects (name : DocumentName) :=
    decodeDocument texts name (Decoding.table? ObjectMapping.decode?)
  { classes := decodeDocument texts .classes Classes.decode?
    domainObjects := objects .domainObjects
    relationshipObjects := objects .relationshipObjects
    cyberObservables := objects .cyberObservables
    metaObjects := objects .metaObjects
    commonAttributes :=
      decodeDocument texts .commonAttributes (Decoding.table? AttributeInfo.decode?)
    composites := decodeDocument texts .composites (Decoding.table? CompositeMapping.decode?)
    relationRoles := decodeDocument texts .relationRoles RoleTable.decode?
    keyValues := decodeDocument texts .keyValues (Decoding.table? KeyValueMapping.decode?)
    dictionary := decodeDocument texts .dictionary DictionaryMapping.decode? }

namespace Mapping

/-- Adds the object types of a document to those that are mapped already. -/
def mergeObjects (document : DocumentName) (merged : Table ObjectMapping) :
    Table ObjectMapping → Except MappingDefect (Table ObjectMapping)
  | [] => .ok merged
  | (stixType, mapping) :: rest =>
    if merged.contains stixType then .error (.inconsistent document (.mappedTwice stixType))
    else mergeObjects document (merged ++ [(stixType, mapping)]) rest

/-- Gives the types of a list their class. -/
def classify (objectClass : ObjectClass) (classed : Table ObjectClass) :
    List String → Except MappingDefect (Table ObjectClass)
  | [] => .ok classed
  | stixType :: rest =>
    if classed.contains stixType then .error (.inconsistent .classes (.classedTwice stixType))
    else classify objectClass (classed ++ [(stixType, objectClass)]) rest

/-- The mapping that the documents state together. -/
def assemble (s : Sources) : Except MappingDefect Mapping := do
  let lists ← s.classes
  let objects ← mergeObjects .domainObjects [] (← s.domainObjects)
  let objects ← mergeObjects .relationshipObjects objects (← s.relationshipObjects)
  let objects ← mergeObjects .cyberObservables objects (← s.cyberObservables)
  let objects ← mergeObjects .metaObjects objects (← s.metaObjects)
  let classes ← classify .domain [] lists.domain
  let classes ← classify .relationship classes lists.relationship
  let classes ← classify .cyberObservable classes lists.cyberObservable
  let classes ← classify .metaObject classes lists.metaObject
  let common ← s.commonAttributes
  let composites ← s.composites
  let roles ← s.relationRoles
  let keyValues ← s.keyValues
  let dictionary ← s.dictionary
  let m : Mapping := { classes, objects, common, composites, roles, keyValues, dictionary }
  match m.defects with
  | [] => return m
  | defect :: _ => throw defect

/-- The mapping that documents state together. -/
def ofDocuments (d : Documents) : Except MappingDefect Mapping := assemble d.sources

/-- The mapping that texts state together, which are filed under the names of their files. -/
def ofTexts (texts : Table String) : Except MappingDefect Mapping := assemble (.ofTexts texts)

end Mapping

end ThreatGraph
