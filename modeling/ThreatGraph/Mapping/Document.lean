import ThreatGraph.Table
import ThreatGraph.ValueType.Basic

/-!
# Mapping documents

A mapping is stated by ten documents: the classes of the object types, four tables of object
mappings, one for each class, and the tables that they refer to: common attributes, nested
objects, roles of relations, key-value schemas and the storage of dictionaries.
-/

namespace ThreatGraph

/-- The documents of a mapping. -/
inductive DocumentName where
  | classes
  | domainObjects
  | relationshipObjects
  | cyberObservables
  | metaObjects
  | commonAttributes
  | composites
  | relationRoles
  | keyValues
  | dictionary
  deriving DecidableEq, Repr

namespace DocumentName

/-- The name of the document's file. -/
def fileName : DocumentName → String
  | .classes => "classes.json"
  | .domainObjects => "sdos.json"
  | .relationshipObjects => "sros.json"
  | .cyberObservables => "scos.json"
  | .metaObjects => "smos.json"
  | .commonAttributes => "common_attributes.json"
  | .composites => "composites.json"
  | .relationRoles => "sros_roles.json"
  | .keyValues => "key-value-pairs.json"
  | .dictionary => "dictionary.json"

/-- All documents, in the order in which they are read. -/
def all : List DocumentName :=
  [.classes, .domainObjects, .relationshipObjects, .cyberObservables, .metaObjects,
    .commonAttributes, .composites, .relationRoles, .keyValues, .dictionary]

end DocumentName

/-- The classes of STIX objects. -/
inductive ObjectClass where
  | domain
  | relationship
  | cyberObservable
  | metaObject
  deriving DecidableEq, Repr

/-- The short name of the class. -/
def ObjectClass.label : ObjectClass → String
  | .domain => "SDO"
  | .relationship => "SRO"
  | .cyberObservable => "SCO"
  | .metaObject => "SMO"

/-- What becomes of a property. -/
structure AttributeInfo where
  /-- its name in the target schema; a pair of roles where the value is a reference -/
  name : String
  /-- what its values are -/
  valueType : ValueType
  /-- its type in STIX, for information only -/
  stixType : Option String := none
  deriving DecidableEq, Repr

/-- The types of each class. -/
structure Classes where
  domain : List String := []
  relationship : List String := []
  cyberObservable : List String := []
  metaObject : List String := []
  deriving DecidableEq, Repr

/-- The choice of a type by the value of one property. -/
structure SubtypeTable where
  /-- the property -/
  property : String
  /-- the type for each value in lower case -/
  values : Table String
  deriving DecidableEq, Repr

/-- A predefined extension of an object type. -/
structure ExtensionMapping where
  /-- the type that overrides the object's own -/
  typeName : Option String := none
  /-- what becomes of the extension's properties -/
  attributes : Table AttributeInfo := []
  deriving DecidableEq, Repr

/-- What becomes of the objects of one STIX type. -/
structure ObjectMapping where
  /-- the type in the target schema, and the one by which the object is matched -/
  typeName : String
  /-- the choice of a more special type -/
  subtypes : Option SubtypeTable := none
  /-- the predefined extensions -/
  extensions : Table ExtensionMapping := []
  /-- what becomes of the properties of this type -/
  attributes : Table AttributeInfo := []
  deriving DecidableEq, Repr

/-- The relation that ties a helper entity to its owner. -/
structure HelperRelation where
  /-- the relation's type -/
  typeName : String
  /-- the role of the owner -/
  ownerRole : String
  /-- the role of the helper -/
  helperRole : String
  deriving DecidableEq, Repr

/-- The schema of a nested object. -/
structure CompositeMapping where
  /-- the type of the helper entity -/
  typeName : String
  /-- what becomes of its fields -/
  attributes : Table AttributeInfo
  /-- the tie to the owner -/
  relation : HelperRelation
  deriving DecidableEq, Repr

/-- How keys outside the table of a key-value schema are kept. -/
structure CustomKey where
  /-- the type of the entity for such a key -/
  entityType : String
  /-- the attribute that holds the key -/
  nameAttribute : String
  deriving DecidableEq, Repr

/-- A key-value schema. -/
structure KeyValueMapping where
  /-- the type of the values -/
  valueType : ValueType
  /-- the attribute that holds a value -/
  valueAttribute : String
  /-- the type of the entity for each key -/
  keys : Table String
  /-- the tie to the owner -/
  relation : HelperRelation
  /-- how other keys are kept; without it they are refused -/
  custom : Option CustomKey := none
  deriving DecidableEq, Repr

/-- How a dictionary's values of one type are kept. -/
structure DictionaryItem where
  /-- the type of the entity -/
  entityType : String
  /-- the attribute that holds the value -/
  valueAttribute : String
  deriving DecidableEq, Repr

/-- How dictionaries are kept. -/
structure DictionaryMapping where
  /-- the attribute of the entity that holds the key -/
  keyAttribute : String
  /-- the attribute of the tie that holds the property's name -/
  propertyAttribute : String
  /-- the tie to the owner -/
  relation : HelperRelation
  /-- how values are kept, by the tag of their type -/
  items : Table DictionaryItem
  deriving DecidableEq, Repr

/-- The role of each property, by the type of the relation. -/
abbrev RoleTable := Table (Table String)

namespace SubtypeTable

/-- The entry for values that have none of their own. -/
def otherwise : String := "_"

/-- The type for a value. -/
def resolve? (t : SubtypeTable) (value : String) : Option String :=
  t.values.get? value <|> t.values.get? otherwise

end SubtypeTable

namespace KeyValueMapping

/-- The keys of the table in order of their characters. -/
def validKeys (m : KeyValueMapping) : List String := Text.sorted m.keys.names

end KeyValueMapping

/-- The ten documents. -/
structure Documents where
  classes : Classes := {}
  domainObjects : Table ObjectMapping := []
  relationshipObjects : Table ObjectMapping := []
  cyberObservables : Table ObjectMapping := []
  metaObjects : Table ObjectMapping := []
  commonAttributes : Table AttributeInfo := []
  composites : Table CompositeMapping := []
  relationRoles : RoleTable := []
  keyValues : Table KeyValueMapping := []
  dictionary : DictionaryMapping

end ThreatGraph
