import ThreatGraph.Json.Printer
import ThreatGraph.Mapping.Basic
import ThreatGraph.Text.Lowercase

/-!
# Questions to a mapping

What conversions ask of a mapping. Types that are not mapped have no class and no target type;
any other question about them is a defect.
-/

namespace ThreatGraph.Mapping

variable (m : Mapping)

/-- The class of an object type; custom types have none. -/
def classOf? (stixType : String) : Option ObjectClass := m.classes.get? stixType

/-- What was found, or the defect that it is missing. -/
def found {α : Type} (entry : Option α) (what : Missing) : Except MappingDefect α :=
  entry.elim (.error (.missing what)) .ok

/-- The mapping of an object type. -/
def object (stixType : String) : Except MappingDefect ObjectMapping :=
  found (m.objects.get? stixType) (.object stixType)

/-- The type by which objects are matched when they are referred to. -/
def supertype (stixType : String) : Except MappingDefect String :=
  return (← m.object stixType).typeName

/-- Whether an extension is predefined for an object type. -/
def isPredefined (stixType extension : String) : Except MappingDefect Bool :=
  return (← m.object stixType).extensions.contains extension

/-- The one predefined extension that an object has. Custom extensions do not count, and two
predefined ones are a defect. -/
def relevantExtension (stixId stixType : String) (extensions : Option Members) :
    Except MappingDefect (Option String) :=
  match m.objects.get? stixType, extensions with
  | some o, some extensions =>
    match (Table.names extensions).filter fun name => o.extensions.contains name with
    | [] => .ok none
    | [name] => .ok (some name)
    | first :: second :: _ => .error (.extensionConflict stixId stixType first second)
  | _, _ => .ok none

/-- The text by which a value is looked up in a subtype table. -/
def subtypeKey : Json → String
  | .string text => Text.lowercase text
  | other => Text.lowercase other.print

/-- The type that the object's properties select. -/
def selectedType (o : ObjectMapping) (stixId stixType : String) (properties : Members) :
    Except MappingDefect String :=
  match o.subtypes with
  | none => .ok o.typeName
  | some subtypes =>
    match properties.get? subtypes.property with
    | none => .error (.subtypePropertyMissing stixType subtypes.property)
    | some value =>
      let key := subtypeKey value
      match subtypes.resolve? key with
      | none => .error (.subtypeUndefined stixId stixType subtypes.property key)
      | some typeName => .ok typeName

/-- The target type of an object: what its properties select, unless its predefined extension has
a type of its own. Types that are not mapped have none. -/
def targetType? (stixId stixType : String) (properties : Members)
    (extensions : Option Members) : Except MappingDefect (Option String) :=
  match m.objects.get? stixType with
  | none => .ok none
  | some o => do
    let selected ← selectedType o stixId stixType properties
    let extension ← m.relevantExtension stixId stixType extensions
    let override := (extension.bind fun name => o.extensions.get? name).bind (·.typeName)
    return some (override.getD selected)

/-- What becomes of a property; custom properties have no entry. What all types share goes before
what the type itself says. -/
def attribute? (stixType property : String) : Except MappingDefect (Option AttributeInfo) :=
  match m.common.get? property with
  | some info => .ok (some info)
  | none => return (← m.object stixType).attributes.get? property

/-- What becomes of a property of a predefined extension. -/
def extensionAttribute? (stixType extension property : String) :
    Except MappingDefect (Option AttributeInfo) := do
  let o ← m.object stixType
  let e ← found (o.extensions.get? extension) (.extension extension stixType)
  return e.attributes.get? property

/-- The properties that name role players, in order of their characters. -/
def roleplayerProperties (stixType : String) : Except MappingDefect (List String) :=
  return Text.sorted (← m.object stixType).roleplayers

/-- The role that is played through `property` in relations of a type. -/
def role (relationType property : String) : Except MappingDefect String :=
  found (m.role? relationType property) (.role property relationType)

/-- The schema of a nested object. -/
def composite (schema : String) : Except MappingDefect CompositeMapping :=
  found (m.composites.get? schema) (.composite schema)

/-- What becomes of a field of a nested object. -/
def compositeAttribute (schema field : String) : Except MappingDefect AttributeInfo := do
  let c ← m.composite schema
  found (c.attributes.get? field) (.compositeField field schema)

/-- A key-value schema. -/
def keyValue (schema : String) : Except MappingDefect KeyValueMapping :=
  found (m.keyValues.get? schema) (.keyValue schema)

/-- How a dictionary's values of a type are kept; lists are kept as their elements are. -/
def dictionaryItem (type : ValueType) : Except MappingDefect DictionaryItem :=
  let tag := type.elementType.tag
  found (m.dictionary.items.get? tag) (.dictionaryItem tag)

end ThreatGraph.Mapping
