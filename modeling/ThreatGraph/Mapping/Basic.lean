import ThreatGraph.Mapping.Defect
import ThreatGraph.Stix.Identifier

/-!
# Mappings

A mapping holds what the documents say, ready for look-ups: the class and the mapping of each
object type in one table, and the tables that the object mappings refer to.

`Mapping.defects` lists whatever the documents disagree about; a mapping is consistent when there
is nothing to list.
-/

namespace ThreatGraph

/-- What becomes of STIX objects. -/
structure Mapping where
  /-- the class of each object type -/
  classes : Table ObjectClass
  /-- the mapping of each object type -/
  objects : Table ObjectMapping
  /-- properties that all object types share -/
  common : Table AttributeInfo
  /-- the schemas of nested objects -/
  composites : Table CompositeMapping
  /-- the roles of each type of relation -/
  roles : RoleTable
  /-- the key-value schemas -/
  keyValues : Table KeyValueMapping
  /-- how dictionaries are kept -/
  dictionary : DictionaryMapping

namespace ObjectMapping

/-- The properties that name role players of the object itself. -/
def roleplayers (o : ObjectMapping) : List String :=
  (o.attributes.filter fun entry => entry.2.valueType = .roleplayer).map Prod.fst

/-- The types that objects can be given when they are stored as relations. -/
def relationTypes (o : ObjectMapping) : List String :=
  (match o.subtypes with
    | some subtypes => subtypes.values.map Prod.snd
    | none => [o.typeName]) ++
    o.extensions.filterMap fun extension => extension.2.typeName

end ObjectMapping

namespace Mapping

variable (m : Mapping)

/-- The role that is played through `property` in relations of a type. -/
def role? (relationType property : String) : Option String :=
  (m.roles.get? relationType).bind fun roles => roles.get? property

/-! ## Consistency -/

/-- What is wrong with an attribute entry: it refers to a schema that does not exist, or its
values are references and its name is no pair of roles. -/
def attributeDefect? (info : AttributeInfo) : Option AttributeDefect :=
  match info.valueType.elementType with
  | .composite schema =>
    if m.composites.contains schema then none else some (.unknownComposite schema)
  | .keyValue schema =>
    if m.keyValues.contains schema then none else some (.unknownKeyValue schema)
  | .relation _ => if Text.contains "::" info.name then none else some (.notARolePair info.name)
  | _ => none

/-- The defects of a table of attributes. -/
def attributeDefects (document : DocumentName) (attributes : Table AttributeInfo) :
    List MappingDefect :=
  attributes.filterMap fun (property, info) =>
    (m.attributeDefect? info).map fun defect =>
      .inconsistent document (.attribute property defect)

/-- The roles that relations of an object type lack. -/
def roleDefects (stixType : String) (o : ObjectMapping) : List MappingDefect :=
  o.relationTypes.flatMap fun relationType =>
    (o.roleplayers.filter fun property => (m.role? relationType property).isNone).map
      fun property => .inconsistent .relationRoles (.noRole relationType stixType property)

/-- What is wrong with a type that has a class. -/
def classDefects (stixType : String) (objectClass : ObjectClass) : List MappingDefect :=
  match m.objects.get? stixType with
  | none => [.inconsistent .classes (.notMapped objectClass stixType)]
  | some o => if objectClass = .relationship then m.roleDefects stixType o else []

/-- The defects of the attributes of an object type and of its extensions. They are reported for
the document of the domain objects, whichever class the type has. -/
def objectDefects (o : ObjectMapping) : List MappingDefect :=
  m.attributeDefects .domainObjects o.attributes ++
    o.extensions.flatMap fun extension => m.attributeDefects .domainObjects extension.2.attributes

/-- What is wrong with the tag of a dictionary's values. -/
def itemDefects (tag : String) : List MappingDefect :=
  match ValueType.ofTag? tag with
  | none => [.unknownValueType tag]
  | some valueType =>
    if valueType.isPrimitive then [] else [.inconsistent .dictionary (.itemNotPrimitive tag)]

/-- Whatever the documents disagree about, in the order in which it is reported. -/
def defects : List MappingDefect :=
  (m.classes.flatMap fun (stixType, objectClass) => m.classDefects stixType objectClass) ++
  ((m.objects.names.filter fun stixType => !m.classes.contains stixType).map
    fun stixType => .inconsistent .classes (.notClassed stixType)) ++
  m.attributeDefects .commonAttributes m.common ++
  (m.objects.flatMap fun entry => m.objectDefects entry.2) ++
  (m.composites.flatMap fun entry => m.attributeDefects .composites entry.2.attributes) ++
  ((m.keyValues.filter fun entry => !entry.2.valueType.isPrimitive).map
    fun entry => .inconsistent .keyValues (.keyValueNotPrimitive entry.1)) ++
  m.dictionary.items.names.flatMap itemDefects

end Mapping

end ThreatGraph
