import ThreatGraph.Mapping.Document

/-!
# What can be wrong with a mapping

A mapping can fail to load, because a document is missing, unreadable, malformed or at odds with
another, and it can fail to answer a question that a conversion asks of it. Of a document that is
unreadable or malformed only the name is told, not the place at which its text goes wrong.
-/

namespace ThreatGraph

/-- What is wrong with one attribute entry. -/
inductive AttributeDefect where
  | unknownComposite (schema : String)
  | unknownKeyValue (schema : String)
  | notARolePair (name : String)
  deriving DecidableEq, Repr

/-- What two documents disagree about. -/
inductive Disagreement where
  | mappedTwice (stixType : String)
  | classedTwice (stixType : String)
  | notMapped (objectClass : ObjectClass) (stixType : String)
  | notClassed (stixType : String)
  | noRole (relationType stixType property : String)
  | attribute (property : String) (defect : AttributeDefect)
  | keyValueNotPrimitive (schema : String)
  | itemNotPrimitive (tag : String)
  deriving DecidableEq, Repr

/-- What a mapping does not define. -/
inductive Missing where
  | document (name : DocumentName)
  | object (stixType : String)
  | extension (name stixType : String)
  | role (property relationType : String)
  | composite (schema : String)
  | compositeField (field schema : String)
  | keyValue (schema : String)
  | dictionaryItem (tag : String)
  | rolePair (name : String)
  deriving DecidableEq, Repr

/-- Why a mapping does not load or answer. -/
inductive MappingDefect where
  /-- the document at `path` cannot be read -/
  | unreadable (path : String)
  /-- the document does not have the shape of its kind -/
  | malformed (document : DocumentName)
  /-- the documents disagree; the entry at fault is in `document` -/
  | inconsistent (document : DocumentName) (disagreement : Disagreement)
  /-- a tag names no value type -/
  | unknownValueType (tag : String)
  /-- something that was asked for is not defined -/
  | missing (what : Missing)
  /-- the object lacks the property that selects its type -/
  | subtypePropertyMissing (stixType property : String)
  /-- the selecting property has a value without an entry -/
  | subtypeUndefined (stixId stixType property value : String)
  /-- the object has two predefined extensions -/
  | extensionConflict (stixId stixType first second : String)
  /-- a key is not one of those that the schema accepts -/
  | unsupportedKey (schema key : String) (valid : List String)
  deriving DecidableEq, Repr

/-- The defect in words. -/
def AttributeDefect.message : AttributeDefect → String
  | .unknownComposite schema => "unknown composite '" ++ schema ++ "'"
  | .unknownKeyValue schema => "unknown key-value schema '" ++ schema ++ "'"
  | .notARolePair name => "relation name '" ++ name ++ "' must be 'objectRole::valueRole'"

/-- The disagreement in words. -/
def Disagreement.message : Disagreement → String
  | .mappedTwice stixType => "STIX type '" ++ stixType ++ "' is mapped more than once"
  | .classedTwice stixType => "STIX type '" ++ stixType ++ "' belongs to several classes"
  | .notMapped objectClass stixType =>
    objectClass.label ++ " type '" ++ stixType ++ "' has no object mapping"
  | .notClassed stixType => "STIX type '" ++ stixType ++ "' is mapped but has no class"
  | .noRole relationType stixType property =>
    "relation '" ++ relationType ++ "' of '" ++ stixType ++ "' has no role for '" ++ property ++ "'"
  | .attribute property defect => "property '" ++ property ++ "': " ++ defect.message
  | .keyValueNotPrimitive schema => "values of '" ++ schema ++ "' must have a primitive type"
  | .itemNotPrimitive tag => "dictionary item type '" ++ tag ++ "' is not primitive"

/-- What is missing, in words. -/
def Missing.message : Missing → String
  | .document name => "mapping document '" ++ name.fileName ++ "' was not provided"
  | .object stixType => "no mapping defined for STIX type '" ++ stixType ++ "'"
  | .extension name stixType => "extension '" ++ name ++ "' is not defined for '" ++ stixType ++ "'"
  | .role property relationType =>
    "no role defined for '" ++ property ++ "' in relation '" ++ relationType ++ "'"
  | .composite schema => "composite type '" ++ schema ++ "' is not defined"
  | .compositeField field schema =>
    "property '" ++ field ++ "' is not defined for composite '" ++ schema ++ "'"
  | .keyValue schema => "key-value type '" ++ schema ++ "' is not defined"
  | .dictionaryItem tag => "dictionary values of type '" ++ tag ++ "' are not supported"
  | .rolePair name => "embedded relation name '" ++ name ++ "' must be 'objectRole::valueRole'"

/-- The defect in words. -/
def MappingDefect.message (defect : MappingDefect) : String :=
  "[Invalid mapping] " ++
    match defect with
    | .unreadable path => "failed to read " ++ path
    | .malformed document => "failed to decode " ++ document.fileName
    | .inconsistent document disagreement => document.fileName ++ ": " ++ disagreement.message
    | .unknownValueType tag => "unknown value type '" ++ tag ++ "'"
    | .missing what => what.message
    | .subtypePropertyMissing stixType property =>
      "the property '" ++ property ++ "' is required for STIX objects of type '" ++ stixType ++ "'"
    | .subtypeUndefined stixId stixType property value =>
      "in '" ++ stixId ++ "': the value '" ++ value ++ "' is not defined for '" ++ property ++
        "' in the mapping of '" ++ stixType ++ "'"
    | .extensionConflict stixId stixType first second =>
      "two predefined extensions given for '" ++ stixId ++ "' (" ++ first ++ ", " ++ second ++
        "); a '" ++ stixType ++ "' must have at most one extension"
    | .unsupportedKey schema key valid =>
      "custom keys such as '" ++ key ++ "' are not supported in the STIX key-value type '" ++
        schema ++ "'; valid keys: [" ++ String.intercalate ", " valid ++ "]"

end ThreatGraph
