import ThreatGraph.Graph.Reference
import ThreatGraph.Json.Printer
import ThreatGraph.Timestamp
import ThreatGraph.ValueType.Basic

/-!
# Why a value does not fit

The reasons for which a value cannot be kept under its type, and their wording.
-/

namespace ThreatGraph

/-- What a type asks of a value. -/
inductive Expected where
  | boolean
  | integer
  | finiteNumber
  | string
  | timestamp
  | list
  | object
  | identifier
  deriving DecidableEq, Repr

/-- What was expected, in words. -/
def Expected.words : Expected → String
  | .boolean => "a boolean"
  | .integer => "an integer"
  | .finiteNumber => "a finite number"
  | .string => "a string"
  | .timestamp => "a timestamp string"
  | .list => "a list"
  | .object => "an object"
  | .identifier => "a STIX identifier"

/-- Why a value cannot be kept under its type. -/
inductive ValueDefect where
  /-- the value is of another kind -/
  | mismatch (expected : Expected) (found : Json)
  /-- the text is no timestamp -/
  | timestamp (raw : String) (defect : TimestampDefect)
  /-- a list of lists has no type -/
  | nestedList
  /-- null has no type -/
  | untypedNull
  /-- the object that owns the value lacks something -/
  | reference (defect : ReferenceDefect)
  /-- the dictionary's entry `key` is of a type that is no literal -/
  | nestedEntry (key : String) (type : ValueType)
  /-- a value of this type needs helpers where only literals can be kept -/
  | nested (type : ValueType)

/-- The defect in words. -/
def ValueDefect.message : ValueDefect → String
  | .mismatch expected found => "expected " ++ expected.words ++ ", found " ++ found.print
  | .timestamp raw defect => "'" ++ raw ++ "' is not a STIX timestamp: " ++ defect.message
  | .nestedList => "nested lists are not supported"
  | .untypedNull => "cannot infer the type of a null value"
  | .reference defect => defect.message
  | .nestedEntry key type =>
    "dictionary entry '" ++ key ++ "' holds a " ++ type.tag ++
      " value; only primitive values are supported"
  | .nested type => "values of type " ++ type.tag ++ " cannot be nested here"

end ThreatGraph
