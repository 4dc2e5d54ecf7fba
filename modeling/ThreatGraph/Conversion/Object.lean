import ThreatGraph.Conversion.Value

/-!
# Converting one object

An object becomes the statements of its draft. Its identifier and type come first; a type without
a class is a custom type and becomes nothing. Objects of relationship classes are stored as
relations between the objects that their role-player properties name, all others as entities, and
either gets its attributes, helpers and links from the remaining properties, the object's own
before those of its predefined extension.

A property that fails ends a strict conversion. In a lenient one it is skipped and reported, like
the properties that are not mapped; the variables that it used stay used.
-/

namespace ThreatGraph

/-- Why a property is not in the statements. -/
inductive SkipReason where
  /-- the mapping has no entry for it -/
  | unmapped
  /-- it failed -/
  | failed (defect : PropertyDefect)

/-- A property that is not in the statements. -/
structure Skipped where
  /-- its name, after that of its extension if it is of one -/
  name : String
  /-- why it was left out -/
  reason : SkipReason

/-- The skipped property in words. -/
def Skipped.message (s : Skipped) : String :=
  s.name ++ ": " ++
    match s.reason with
    | .unmapped => "not mapped"
    | .failed defect => defect.message

/-- What an object is converted to. -/
structure Conversion where
  /-- the identifier of the object -/
  stixId : String
  /-- its statements -/
  statements : OrderedStatements := {}
  /-- the properties that are not in them -/
  skipped : List Skipped := []

/-- What properties are converted to. -/
structure Collected extends Gathered where
  /-- the properties that were left out -/
  skipped : List Skipped := []

namespace Collected

/-- What either of them holds. -/
def append (a b : Collected) : Collected where
  attributes := a.attributes ++ b.attributes
  attachments := a.attachments ++ b.attachments
  skipped := a.skipped ++ b.skipped

instance : Append Collected := ⟨append⟩

end Collected

/-- An object that is being converted. -/
structure Subject where
  /-- the mapping in use -/
  mapping : Mapping
  /-- whether a failing property ends the conversion -/
  strict : Bool
  /-- the object -/
  object : Members
  /-- its identifier -/
  stixId : String
  /-- its type -/
  stixType : String

namespace Subject

/-- The type of relationships outside the vocabulary. -/
def customRelationship : String := "custom-relationship"

/-- The attribute that holds what a relationship outside the vocabulary calls itself. -/
def relationNameAttribute : String := "relation-name"

/-- The property that names the type of a relationship. -/
def relationshipType : String := "relationship_type"

variable {α : Type} (s : Subject)

/-- A rejection of the object. -/
def rejection (kind : RejectionKind) (detail : String) : ObjectDefect :=
  .rejected { kind, detail := some detail, stixId := some s.stixId }

/-- The object is rejected. -/
def reject (kind : RejectionKind) (detail : String) : Naming ObjectDefect α :=
  throw (s.rejection kind detail)

/-- The answer of the mapping. -/
def ask (answer : Except MappingDefect α) : Naming ObjectDefect α :=
  Naming.ofExcept (answer.mapError .mapping)

/-! ## Properties -/

/-- Converts one property, whose entry in the mapping is `info`. -/
def property (self : Reference) (label : String) (info : Option AttributeInfo) (raw : Json) :
    Naming ObjectDefect Collected := do
  match info with
  | none => return { skipped := [⟨label, .unmapped⟩] }
  | some info =>
    match ← (convertValue s.mapping ⟨self, info.name⟩ info.valueType raw).attempt with
    | .ok converted =>
      return { attributes := [(info.name, converted.literals)]
               attachments := converted.attachments }
    | .error defect =>
      if s.strict then throw (.ofProperty label s.stixId defect)
      else return { skipped := [⟨label, .failed defect⟩] }

/-- Converts the object's own properties. -/
def ownProperties (self : Reference) : Members → Naming ObjectDefect Collected
  | [] => pure {}
  | (name, raw) :: rest => do
    let info ← ask (s.mapping.attribute? s.stixType name)
    let first ← s.property self name info raw
    let others ← ownProperties self rest
    return first ++ others

/-- Converts the properties of a predefined extension. -/
def extensionProperties (self : Reference) (extension : String) :
    Members → Naming ObjectDefect Collected
  | [] => pure {}
  | (name, raw) :: rest => do
    let info ← ask (s.mapping.extensionAttribute? s.stixType extension name)
    let first ← s.property self (extension ++ "." ++ name) info raw
    let others ← extensionProperties self extension rest
    return first ++ others

/-- Converts the object's own properties but for those that name role players, then those of its
predefined extension. -/
def properties (self : Reference) (roleplayers : List String) (extensions : Option Members) :
    Naming ObjectDefect Collected := do
  let own ← s.ownProperties self (s.object.filter fun member => !roleplayers.contains member.1)
  match ← ask (s.mapping.relevantExtension s.stixId s.stixType extensions) with
  | none => return own
  | some name =>
    match (extensions.bind fun extensions => extensions.get? name).bind Json.members? with
    | none => s.reject .invalidPropertyType ("extensions." ++ name ++ " must be an object")
    | some members => return own ++ (← s.extensionProperties self name members)

/-! ## Role players -/

/-- The text of each value; there is none if one of them is no text. -/
def allTexts? : List Json → Option (List String)
  | [] => some []
  | value :: rest => do
    let text ← value.text?
    let texts ← allTexts? rest
    return text :: texts

/-- The identifiers that a role-player property names: one, or a list of them. -/
def roleplayerIds (property : String) (raw : Json) : Naming ObjectDefect (List String) := do
  let ids ←
    match raw with
    | .string id => pure [id]
    | .array items =>
      match allTexts? items with
      | some ids => pure ids
      | none => s.reject .invalidPropertyValue (property ++ ": expected a list of identifiers")
    | _ => s.reject .invalidPropertyType property
  if ids.isEmpty || ids.any String.isEmpty then s.reject .unspecifiedProperty property
  return ids

/-- Matches the objects that a role-player property names. -/
def matchIds (property : String) : List String → Naming ObjectDefect (List Entity)
  | [] => pure []
  | id :: rest => do
    match Stix.typeOfId? id with
    | none =>
      s.reject .invalidPropertyValue (property ++ ": '" ++ id ++ "' is not a STIX identifier")
    | some playerType =>
      let supertype ← ask (s.mapping.supertype playerType)
      let reference := Reference.known (some id) none (some supertype)
      let first ← Naming.mapError
        (fun defect => s.rejection .invalidPropertyValue (property ++ ": " ++ defect.message))
        reference.matchEntity
      let others ← matchIds property rest
      return first :: others

/-- The role players that the properties name, each with its role in relations of the type. -/
def players (typeName : String) : List String → Naming ObjectDefect (List (String × Entity))
  | [] => pure []
  | property :: rest => do
    let first ←
      match s.object.get? property with
      | none => pure []
      | some raw =>
        let ids ← s.roleplayerIds property raw
        let role ← ask (s.mapping.role typeName property)
        pure ((← s.matchIds property ids).map fun player => (role, player))
    let others ← players typeName rest
    return first ++ others

/-! ## The main thing -/

/-- Converts the object to an entity. -/
def entityDraft (typeName : String) (extensions : Option Members) :
    Naming ObjectDefect (Draft × List Skipped) := do
  let var ← Naming.fresh
  let self := Reference.known (some s.stixId) (some var) (some typeName)
  let collected ← s.properties self [] extensions
  let entity : Entity := { var, typeName }
  let entity := collected.attributes.foldl (fun e a => e.addAttributes a.1 a.2) entity
  return ({ toAttachments := collected.attachments, main := some (.entity entity) },
    collected.skipped)

/-- What a relationship outside the vocabulary calls itself, as an attribute. -/
def relationName (typeName : String) : List String :=
  if typeName = customRelationship then
    (s.object.text? relationshipType).toList.map quote
  else []

/-- Converts the object to a relation between the objects that it names. -/
def relationDraft (typeName : String) (extensions : Option Members) :
    Naming ObjectDefect (Draft × List Skipped) := do
  let var ← Naming.fresh
  let roleplayers ← ask (s.mapping.roleplayerProperties s.stixType)
  let players ← s.players typeName roleplayers
  if players.isEmpty then
    s.reject .unspecifiedProperty (String.intercalate ", " roleplayers)
  let self := Reference.known (some s.stixId) (some var) (some typeName)
  let collected ← s.properties self roleplayers extensions
  let relation : Relation := { var, typeName }
  let relation := players.foldl (fun r p => r.addPlayer p.1 p.2.var) relation
  let relation := relation.addAttributes relationNameAttribute (s.relationName typeName)
  let relation := collected.attributes.foldl (fun r a => r.addAttributes a.1 a.2) relation
  return ({ toAttachments := collected.attachments
            main := some (.relation relation (players.map Prod.snd)) },
    collected.skipped)

/-- The extensions of the object. -/
def extensions : Except ObjectDefect (Option Members) :=
  match s.object.get? "extensions" with
  | none => .ok none
  | some (.object members) => .ok (some members)
  | some _ => .error (s.rejection .invalidPropertyType "extensions must be an object")

/-- Converts the object to the draft of its class. -/
def draft (objectClass : ObjectClass) : Naming ObjectDefect (Draft × List Skipped) := do
  let extensions ← Naming.ofExcept s.extensions
  match ← ask (s.mapping.targetType? s.stixId s.stixType s.object extensions) with
  | none => s.reject .unsupportedCustomType s.stixType
  | some typeName =>
    if objectClass = .relationship then s.relationDraft typeName extensions
    else s.entityDraft typeName extensions

/-- A text that the object must have, and which must have characters. -/
def requiredText (object : Members) (name : String) (stixId : Option String) :
    Except Rejection String :=
  match object.get? name with
  | none => .error { kind := .missingRequiredProperty, detail := some name, stixId }
  | some (.string text) =>
    if text.isEmpty then .error { kind := .missingRequiredProperty, detail := some name, stixId }
    else .ok text
  | some _ => .error { kind := .invalidPropertyType, detail := some name, stixId }

/-- The object with its identifier and its type. -/
def identify (mapping : Mapping) (strict : Bool) (object : Members) : Except Rejection Subject := do
  let stixId ← requiredText object "id" none
  let stixType ← requiredText object "type" (some stixId)
  return { mapping, strict, object, stixId, stixType }

/-- Converts the object. Its variables start anew. -/
def convert : Except ObjectDefect Conversion :=
  match s.mapping.classOf? s.stixType with
  | none => .ok { stixId := s.stixId }
  | some objectClass => do
    let (draft, skipped) ← ((s.draft objectClass).run.run {}).1
    let statements ← draft.order.mapError fun defect => .rejected defect.rejection
    return { stixId := s.stixId, statements, skipped }

end Subject

/-- Converts an object. -/
def convertObject (mapping : Mapping) (strict : Bool) (object : Members) :
    Except ObjectDefect Conversion := do
  let subject ← (Subject.identify mapping strict object).mapError .rejected
  subject.convert

end ThreatGraph
