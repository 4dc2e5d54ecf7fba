import ThreatGraph.Graph.Draft
import ThreatGraph.Mapping.Defect
import ThreatGraph.ValueType.Defect

/-!
# Why a property or an object is not converted

A property fails because its value does not fit or because the mapping cannot answer. A whole
object fails because of the mapping, which will fail every object of its shape, or because of
something in the object itself, which is reported as a coded rejection.
-/

namespace ThreatGraph

/-- Why the value of a property is not converted. -/
inductive PropertyDefect where
  /-- the mapping cannot answer what the value asks -/
  | mapping (defect : MappingDefect)
  /-- the value does not fit -/
  | value (defect : ValueDefect)

/-- The defect in words. -/
def PropertyDefect.message : PropertyDefect → String
  | .mapping defect => defect.message
  | .value defect => defect.message

/-- The kinds of rejections. -/
inductive RejectionKind where
  | missingRequiredProperty
  | unspecifiedProperty
  | unsupportedCustomType
  | invalidPropertyValue
  | invalidPropertyType
  | other
  deriving DecidableEq, Repr

/-- The code of the kind. -/
def RejectionKind.code : RejectionKind → Nat
  | .missingRequiredProperty => 201
  | .unspecifiedProperty => 202
  | .unsupportedCustomType => 203
  | .invalidPropertyValue => 204
  | .invalidPropertyType => 205
  | .other => 206

/-- The kind in words. -/
def RejectionKind.words : RejectionKind → String
  | .missingRequiredProperty => "Missing required property"
  | .unspecifiedProperty => "Unspecified property"
  | .unsupportedCustomType => "Unsupported custom type"
  | .invalidPropertyValue => "Invalid property value"
  | .invalidPropertyType => "Invalid property type"
  | .other => "Transformation failed"

/-- Why one object cannot be converted under a sound mapping. -/
structure Rejection where
  /-- the kind of the reason -/
  kind : RejectionKind
  /-- the property at fault, or a short explanation -/
  detail : Option String := none
  /-- the identifier of the object, if it is known -/
  stixId : Option String := none
  deriving DecidableEq, Repr

/-- The rejection in words. -/
def Rejection.message (r : Rejection) : String :=
  "[TransformationError " ++ toString r.kind.code ++ "] " ++ r.kind.words ++
    r.detail.elim "" (fun detail => ": " ++ detail) ++
    r.stixId.elim "" (fun stixId => " (in '" ++ stixId ++ "')")

/-- A draft that has no order is reported without the object that it was for. -/
def DraftDefect.rejection (defect : DraftDefect) : Rejection :=
  { kind := .other, detail := some defect.message }

/-- Why an object is not converted. -/
inductive ObjectDefect where
  /-- the mapping is at fault -/
  | mapping (defect : MappingDefect)
  /-- the object is at fault -/
  | rejected (rejection : Rejection)

namespace ObjectDefect

/-- The defect in words. -/
def message : ObjectDefect → String
  | .mapping defect => defect.message
  | .rejected rejection => rejection.message

/-- Whether the mapping is at fault. -/
def isMapping : ObjectDefect → Bool
  | .mapping _ => true
  | .rejected _ => false

/-- The defect of one property as one of the object. -/
def ofProperty (label stixId : String) : PropertyDefect → ObjectDefect
  | .mapping defect => .mapping defect
  | .value defect =>
    .rejected
      { kind := .invalidPropertyValue
        detail := some (label ++ ": " ++ defect.message)
        stixId := some stixId }

end ObjectDefect

end ThreatGraph
