import ThreatGraph.Json.Basic
import ThreatGraph.Mapping.Document

/-!
# Documents from JSON

Decoding is strict: a record has the fields that its kind knows, each of them once, and no
others, so a misspelled name fails at once and disables nothing silently. A record may also be
given as the list of its fields' values in order. Tables, unlike records, take the last of several
entries of one name.

All decoders answer `none` for a value that does not have the shape of its kind.
-/

namespace ThreatGraph

namespace Decoding

variable {α : Type}

/-- A list of values of one kind. -/
def list? (decode : Json → Option α) : Json → Option (List α)
  | .array items => items.mapM decode
  | _ => none

/-- A table of values of one kind. -/
def table? (decode : Json → Option α) : Json → Option (Table α)
  | .object members =>
    (members.mapM fun (entry : String × Json) => (decode entry.2).map (entry.1, ·)).map
      Table.ofPairs
  | _ => none

/-- The values given for the fields of a record, in the order of `fields`. A field may be known
under several names, of which only one may be used. -/
def record? (fields : List (List String)) : Json → Option (List (Option Json))
  | .array items =>
    if items.length ≤ fields.length then
      some (items.map some ++ List.replicate (fields.length - items.length) none)
    else none
  | .object members =>
    let known (name : String) := fields.any fun names => names.contains name
    let given (names : List String) := members.filter fun member => names.contains member.1
    if members.all (fun member => known member.1) &&
        fields.all (fun names => (given names).length ≤ 1) then
      some (fields.map fun names => (given names).head?.map Prod.snd)
    else none
  | _ => none

/-- A field that must be given. -/
def required (decode : Json → Option α) (given : Option Json) : Option α := given.bind decode

/-- A field that may be left out or null. -/
def optional (decode : Json → Option α) : Option Json → Option (Option α)
  | none => some none
  | some .null => some none
  | some value => (decode value).map some

/-- A field that has the value `default` if it is left out. -/
def orElse (default : α) (decode : Json → Option α) (given : Option Json) : Option α :=
  given.elim (some default) decode

end Decoding

open Decoding

/-- A value type by its tag. -/
def ValueType.decode? (j : Json) : Option ValueType := j.text?.bind ValueType.ofTag?

/-- The entry of a property. -/
def AttributeInfo.decode? (j : Json) : Option AttributeInfo := do
  match ← record? [["typedb_name"], ["typedb_value_type"], ["stix_value_type"]] j with
  | [name, valueType, stixType] =>
    let name ← required Json.text? name
    let valueType ← required ValueType.decode? valueType
    let stixType ← optional Json.text? stixType
    return { name, valueType, stixType }
  | _ => none

/-- The document of the classes. -/
def Classes.decode? (j : Json) : Option Classes := do
  let types := orElse [] (list? Json.text?)
  let fields := [["STIXDomainObject"], ["STIXRelationshipObject"], ["STIXCyberObservable"],
    ["STIXMetaObject"]]
  match ← record? fields j with
  | [domain, relationship, cyberObservable, metaObject] =>
    let domain ← types domain
    let relationship ← types relationship
    let cyberObservable ← types cyberObservable
    let metaObject ← types metaObject
    return { domain, relationship, cyberObservable, metaObject }
  | _ => none

/-- A subtype table: an object with exactly one property in it. -/
def SubtypeTable.decode? (j : Json) : Option SubtypeTable := do
  match ← table? (table? Json.text?) j with
  | [(property, values)] => some { property, values }
  | _ => none

/-- A predefined extension. -/
def ExtensionMapping.decode? (j : Json) : Option ExtensionMapping := do
  match ← record? [["typedb-thing-type"], ["attributes"]] j with
  | [typeName, attributes] =>
    let typeName ← optional Json.text? typeName
    let attributes ← orElse [] (table? AttributeInfo.decode?) attributes
    return { typeName, attributes }
  | _ => none

/-- The mapping of an object type. -/
def ObjectMapping.decode? (j : Json) : Option ObjectMapping := do
  match ← record? [["typedb-thing-type"], ["subtypes"], ["extensions"], ["attributes"]] j with
  | [typeName, subtypes, extensions, attributes] =>
    let typeName ← required Json.text? typeName
    let subtypes ← optional SubtypeTable.decode? subtypes
    let extensions ← orElse [] (table? ExtensionMapping.decode?) extensions
    let attributes ← orElse [] (table? AttributeInfo.decode?) attributes
    return { typeName, subtypes, extensions, attributes }
  | _ => none

/-- The tie of a helper. Its own role may be called that of a value or that of an item. -/
def HelperRelation.decode? (j : Json) : Option HelperRelation := do
  match ← record? [["relation-name"], ["object-role"], ["value-role", "item-role"]] j with
  | [typeName, ownerRole, helperRole] =>
    let typeName ← required Json.text? typeName
    let ownerRole ← required Json.text? ownerRole
    let helperRole ← required Json.text? helperRole
    return { typeName, ownerRole, helperRole }
  | _ => none

/-- The schema of a nested object. -/
def CompositeMapping.decode? (j : Json) : Option CompositeMapping := do
  match ← record? [["typedb-name"], ["attributes"], ["helper-relation"]] j with
  | [typeName, attributes, relation] =>
    let typeName ← required Json.text? typeName
    let attributes ← required (table? AttributeInfo.decode?) attributes
    let relation ← required HelperRelation.decode? relation
    return { typeName, attributes, relation }
  | _ => none

/-- How keys outside the table are kept. -/
def CustomKey.decode? (j : Json) : Option CustomKey := do
  match ← record? [["entity-name"], ["name-attribute"]] j with
  | [entityType, nameAttribute] =>
    let entityType ← required Json.text? entityType
    let nameAttribute ← required Json.text? nameAttribute
    return { entityType, nameAttribute }
  | _ => none

/-- A key-value schema. -/
def KeyValueMapping.decode? (j : Json) : Option KeyValueMapping := do
  match ← record? [["value_type"], ["attribute_name"], ["keys"], ["relation"], ["custom"]] j with
  | [valueType, valueAttribute, keys, relation, custom] =>
    let valueType ← required ValueType.decode? valueType
    let valueAttribute ← required Json.text? valueAttribute
    let keys ← required (table? Json.text?) keys
    let relation ← required HelperRelation.decode? relation
    let custom ← optional CustomKey.decode? custom
    return { valueType, valueAttribute, keys, relation, custom }
  | _ => none

/-- How a dictionary's values of one type are kept. -/
def DictionaryItem.decode? (j : Json) : Option DictionaryItem := do
  match ← record? [["entity"], ["value-attribute"]] j with
  | [entityType, valueAttribute] =>
    let entityType ← required Json.text? entityType
    let valueAttribute ← required Json.text? valueAttribute
    return { entityType, valueAttribute }
  | _ => none

/-- How dictionaries are kept. -/
def DictionaryMapping.decode? (j : Json) : Option DictionaryMapping := do
  match ← record? [["attribute_key"], ["attribute_property"], ["relation"], ["subitems"]] j with
  | [keyAttribute, propertyAttribute, relation, items] =>
    let keyAttribute ← required Json.text? keyAttribute
    let propertyAttribute ← required Json.text? propertyAttribute
    let relation ← required HelperRelation.decode? relation
    let items ← required (table? DictionaryItem.decode?) items
    return { keyAttribute, propertyAttribute, relation, items }
  | _ => none

/-- The roles of all relations. -/
def RoleTable.decode? : Json → Option RoleTable := table? (table? Json.text?)

end ThreatGraph
