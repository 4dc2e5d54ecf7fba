import ThreatGraph.Json.Basic
import ThreatGraph.Mapping.Document

/-!
# Documents as JSON

The documents as they are decoded again. Fields that say nothing are left out.
-/

namespace ThreatGraph

namespace Encoding

variable {α : Type}

/-- A table, entry by entry. -/
def table (encode : α → Json) (t : Table α) : Json :=
  .object (t.map fun (name, value) => (name, encode value))

/-- A table that is left out if it is empty. -/
def tableField (name : String) (encode : α → Json) (t : Table α) : Members :=
  if t.isEmpty then [] else [(name, table encode t)]

/-- A field that may be left out. -/
def field? (name : String) (encode : α → Json) (value : Option α) : Members :=
  (value.map fun v => (name, encode v)).toList

end Encoding

open Encoding

/-- The entry of a property. -/
def AttributeInfo.encode (info : AttributeInfo) : Json :=
  .object ([("typedb_name", .string info.name),
    ("typedb_value_type", .string info.valueType.tag)] ++
    field? "stix_value_type" .string info.stixType)

/-- The document of the classes. -/
def Classes.encode (c : Classes) : Json :=
  let types (names : List String) := Json.array (names.map .string)
  .object [("STIXDomainObject", types c.domain), ("STIXRelationshipObject", types c.relationship),
    ("STIXCyberObservable", types c.cyberObservable), ("STIXMetaObject", types c.metaObject)]

/-- A subtype table. -/
def SubtypeTable.encode (t : SubtypeTable) : Json :=
  .object [(t.property, table .string t.values)]

/-- A predefined extension. -/
def ExtensionMapping.encode (m : ExtensionMapping) : Json :=
  .object (field? "typedb-thing-type" .string m.typeName ++
    tableField "attributes" AttributeInfo.encode m.attributes)

/-- The mapping of an object type. -/
def ObjectMapping.encode (m : ObjectMapping) : Json :=
  .object ([("typedb-thing-type", .string m.typeName)] ++
    field? "subtypes" SubtypeTable.encode m.subtypes ++
    tableField "extensions" ExtensionMapping.encode m.extensions ++
    tableField "attributes" AttributeInfo.encode m.attributes)

/-- The tie of a helper, whose own role goes under the name `helperRole`. -/
def HelperRelation.encode (helperRole : String) (r : HelperRelation) : Json :=
  .object [("relation-name", .string r.typeName), ("object-role", .string r.ownerRole),
    (helperRole, .string r.helperRole)]

/-- The schema of a nested object. -/
def CompositeMapping.encode (m : CompositeMapping) : Json :=
  .object [("typedb-name", .string m.typeName),
    ("attributes", table AttributeInfo.encode m.attributes),
    ("helper-relation", m.relation.encode "value-role")]

/-- How keys outside the table are kept. -/
def CustomKey.encode (c : CustomKey) : Json :=
  .object [("entity-name", .string c.entityType), ("name-attribute", .string c.nameAttribute)]

/-- A key-value schema. -/
def KeyValueMapping.encode (m : KeyValueMapping) : Json :=
  .object ([("value_type", .string m.valueType.tag), ("attribute_name", .string m.valueAttribute),
    ("keys", table .string m.keys), ("relation", m.relation.encode "item-role")] ++
    field? "custom" CustomKey.encode m.custom)

/-- How a dictionary's values of one type are kept. -/
def DictionaryItem.encode (i : DictionaryItem) : Json :=
  .object [("entity", .string i.entityType), ("value-attribute", .string i.valueAttribute)]

/-- How dictionaries are kept. -/
def DictionaryMapping.encode (m : DictionaryMapping) : Json :=
  .object [("attribute_key", .string m.keyAttribute),
    ("attribute_property", .string m.propertyAttribute),
    ("relation", m.relation.encode "item-role"),
    ("subitems", table DictionaryItem.encode m.items)]

/-- One of the documents. -/
def Documents.encode (d : Documents) : DocumentName → Json
  | .classes => d.classes.encode
  | .domainObjects => table ObjectMapping.encode d.domainObjects
  | .relationshipObjects => table ObjectMapping.encode d.relationshipObjects
  | .cyberObservables => table ObjectMapping.encode d.cyberObservables
  | .metaObjects => table ObjectMapping.encode d.metaObjects
  | .commonAttributes => table AttributeInfo.encode d.commonAttributes
  | .composites => table CompositeMapping.encode d.composites
  | .relationRoles => table (table .string) d.relationRoles
  | .keyValues => table KeyValueMapping.encode d.keyValues
  | .dictionary => d.dictionary.encode

end ThreatGraph
