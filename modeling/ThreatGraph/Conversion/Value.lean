import ThreatGraph.Conversion.Defect
import ThreatGraph.Mapping.Lookup
import ThreatGraph.ValueType.Inference
import ThreatGraph.ValueType.Literal

/-!
# Converting one value

A value under its declared type becomes literals for the owning thing, helpers that hang from it,
or links to other objects.

* `ValueType.check` says whether a value fits its type, before anything is done with it. A list
  fits if all its elements do; nested objects and maps are looked into only when they are
  converted.
* `convertValue` converts a value that fits. It is recursive on the value, so it ends also under
  mappings whose nested objects refer to themselves.

Variables are handed out in the order in which things come into being: a nested object before its
fields and its tie after them, the target of a link before its owner and the relation last.
-/

namespace ThreatGraph

/-- Whether a value fits a type. -/
def ValueType.check : ValueType → Json → Except ValueDefect Unit
  | .empty, _ => .ok ()
  | .roleplayer, _ => .ok ()
  | .scalar s, raw => (Literal.read s raw).map fun _ => ()
  | .list element, .array items => items.forM element.check
  | .list _, raw => .error (.mismatch .list raw)
  | .relation _, .string id =>
    if (Stix.typeOfId? id).isSome then .ok () else .error (.mismatch .identifier (.string id))
  | .relation _, raw => .error (.mismatch .identifier raw)
  | .composite _, .object _ => .ok ()
  | .composite _, raw => .error (.mismatch .object raw)
  | .keyValue _, .object _ => .ok ()
  | .keyValue _, raw => .error (.mismatch .object raw)
  | .dictionary, .object _ => .ok ()
  | .dictionary, raw => .error (.mismatch .object raw)

/-- What a value is converted for. -/
structure Owner where
  /-- the object that has the property -/
  reference : Reference
  /-- the name of the property in the target schema -/
  attributeName : String

/-- What a value is converted to. -/
structure Converted where
  /-- literals for the owning thing, in order -/
  literals : List String := []
  /-- helpers and links that come with it -/
  attachments : Attachments := {}

/-- What several values are converted to. -/
structure Gathered where
  /-- literals by the attribute that they are for, in order -/
  attributes : List (String × List String) := []
  /-- helpers and links that come with them -/
  attachments : Attachments := {}

namespace Naming

variable {ε α : Type}

/-- The answer of a mapping. -/
def ofMapping (answer : Except MappingDefect α) : Naming PropertyDefect α :=
  ofExcept (answer.mapError .mapping)

/-- What is made of a value. -/
def ofValue (result : Except ValueDefect α) : Naming PropertyDefect α :=
  ofExcept (result.mapError .value)

/-- What is known of an object that is referred to. -/
def ofReference (result : Except ReferenceDefect α) : Naming PropertyDefect α :=
  ofExcept (result.mapError fun defect => .value (.reference defect))

/-- An entity that matches an object. -/
def matched (reference : Reference) : Naming PropertyDefect Entity :=
  mapError (fun defect => .value (.reference defect)) reference.matchEntity

end Naming

/-- The relation that ties a helper to its owner, bound to `var`. -/
def HelperRelation.tie (r : HelperRelation) (var owner helper : String) : Relation :=
  let relation : Relation := { var, typeName := r.typeName }
  (relation.addPlayer r.ownerRole owner).addPlayer r.helperRole helper

/-- The link from an owner to the object of an identifier, which begins with `targetType`. -/
def convertLink (m : Mapping) (owner : Owner) (typeName id targetType : String) :
    Naming PropertyDefect Attachments := do
  let (ownerRole, targetRole) ← Naming.ofMapping
    (Mapping.found (Stix.rolePair? owner.attributeName) (.rolePair owner.attributeName))
  let supertype ← Naming.ofMapping (m.supertype targetType)
  let targetEntity ← Naming.matched (.known (some id) none (some supertype))
  let ownerEntity ← Naming.matched owner.reference
  let var ← Naming.fresh
  let relation : Relation := { var, typeName }
  let relation := relation.addPlayer ownerRole ownerEntity.var
  return .link ownerEntity targetEntity (relation.addPlayer targetRole targetEntity.var)

/-- The entity for a key of a key-value map, bound to a fresh variable. -/
def keyEntity (schema : String) (k : KeyValueMapping) (key : String) :
    Naming PropertyDefect Entity := do
  match k.keys.get? key, k.custom with
  | some typeName, _ => return { var := ← Naming.fresh, typeName }
  | none, some custom =>
    let entity : Entity := { var := ← Naming.fresh, typeName := custom.entityType }
    return entity.addAttribute custom.nameAttribute (quote key)
  | none, none => Naming.ofMapping (.error (.unsupportedKey schema key k.validKeys))

/-- The literals of a value of a type that may need no helpers and links here. -/
def onlyLiterals (type : ValueType) (converted : Converted) : Except ValueDefect (List String) :=
  if converted.attachments.isEmpty then .ok converted.literals else .error (.nested type)

mutual

/-- Converts a value under its type. -/
def convertValue (m : Mapping) (owner : Owner) : ValueType → Json → Naming PropertyDefect Converted
  | .empty, _ => pure {}
  | .roleplayer, _ => pure {}
  | .scalar s, raw => do
    let literal ← Naming.ofValue (Literal.read s raw)
    return { literals := [literal.text] }
  | .list element, .array items => do
    Naming.ofValue ((ValueType.list element).check (.array items))
    convertItems m owner element items
  | .relation typeName, .string id =>
    match Stix.typeOfId? id with
    | none => Naming.ofValue (.error (.mismatch .identifier (.string id)))
    | some targetType => do
      return { attachments := ← convertLink m owner typeName id targetType }
  | .composite schema, .object fields => do
    let composite ← Naming.ofMapping (m.composite schema)
    let var ← Naming.fresh
    let self := Reference.known none (some var) (some composite.typeName)
    let gathered ← convertFields m schema self fields
    let ownerVar ← Naming.ofReference owner.reference.requireVar
    let tieVar ← Naming.fresh
    let entity : Entity := { var, typeName := composite.typeName }
    let entity := gathered.attributes.foldl (fun e a => e.addAttributes a.1 a.2) entity
    let helper := Attachments.helper entity (composite.relation.tie tieVar ownerVar var)
    return { attachments := helper ++ gathered.attachments }
  | .keyValue schema, .object pairs => do
    let k ← Naming.ofMapping (m.keyValue schema)
    let ownerVar ← Naming.ofReference owner.reference.requireVar
    return { attachments := ← convertPairs m owner ownerVar schema k pairs }
  | .dictionary, .object entries => do
    let ownerVar ← Naming.ofReference owner.reference.requireVar
    return { attachments := ← convertEntries m owner ownerVar entries }
  | .list _, raw => Naming.ofValue (.error (.mismatch .list raw))
  | .relation _, raw => Naming.ofValue (.error (.mismatch .identifier raw))
  | .composite _, raw => Naming.ofValue (.error (.mismatch .object raw))
  | .keyValue _, raw => Naming.ofValue (.error (.mismatch .object raw))
  | .dictionary, raw => Naming.ofValue (.error (.mismatch .object raw))

/-- Converts the elements of a list. -/
def convertItems (m : Mapping) (owner : Owner) (element : ValueType) :
    List Json → Naming PropertyDefect Converted
  | [] => pure {}
  | item :: rest => do
    let first ← convertValue m owner element item
    let others ← convertItems m owner element rest
    return ⟨first.literals ++ others.literals, first.attachments ++ others.attachments⟩

/-- Converts the fields of a nested object, which is referred to by `self`. -/
def convertFields (m : Mapping) (schema : String) (self : Reference) :
    List (String × Json) → Naming PropertyDefect Gathered
  | [] => pure {}
  | (field, raw) :: rest => do
    let info ← Naming.ofMapping (m.compositeAttribute schema field)
    let first ← convertValue m ⟨self, info.name⟩ info.valueType raw
    let others ← convertFields m schema self rest
    return ⟨(info.name, first.literals) :: others.attributes,
      first.attachments ++ others.attachments⟩

/-- Converts the pairs of a key-value map: for each an entity that holds the value, tied to the
owner. -/
def convertPairs (m : Mapping) (owner : Owner) (ownerVar schema : String) (k : KeyValueMapping) :
    List (String × Json) → Naming PropertyDefect Attachments
  | [] => pure {}
  | (key, raw) :: rest => do
    let converted ← convertValue m owner k.valueType raw
    let literals ← Naming.ofValue (onlyLiterals k.valueType converted)
    let entity ← keyEntity schema k key
    let entity := entity.addAttributes k.valueAttribute literals
    let tieVar ← Naming.fresh
    let first := Attachments.helper entity (k.relation.tie tieVar ownerVar entity.var)
    let others ← convertPairs m owner ownerVar schema k rest
    return first ++ others

/-- Converts the entries of a dictionary: for each an item that holds key and value, tied to the
owner under the property's name. -/
def convertEntries (m : Mapping) (owner : Owner) (ownerVar : String) :
    List (String × Json) → Naming PropertyDefect Attachments
  | [] => pure {}
  | (key, raw) :: rest => do
    let type ← Naming.ofValue raw.inferType
    Naming.ofValue (if type.elementType.isPrimitive then .ok () else .error (.nestedEntry key type))
    let item ← Naming.ofMapping (m.dictionaryItem type)
    let converted ← convertValue m owner type raw
    let literals ← Naming.ofValue (onlyLiterals type converted)
    let var ← Naming.fresh
    let entity : Entity := { var, typeName := item.entityType }
    let entity := entity.addAttribute m.dictionary.keyAttribute (quote key)
    let entity := entity.addAttributes item.valueAttribute literals
    let tieVar ← Naming.fresh
    let tie := m.dictionary.relation.tie tieVar ownerVar var
    let tie := tie.addAttribute m.dictionary.propertyAttribute (quote owner.attributeName)
    let others ← convertEntries m owner ownerVar rest
    return Attachments.helper entity tie ++ others

end

end ThreatGraph
