import ThreatGraph.ValueType.Defect

/-!
# The type of an undeclared value

Values of a dictionary have no declared type; theirs is read off their shape. A text that states a
timestamp is a datetime, and a list is typed by its first element, an empty one as texts.
-/

namespace ThreatGraph

/-- The type that a value has by its shape. -/
def Json.inferType : Json → Except ValueDefect ValueType
  | .null => .error .untypedNull
  | .bool _ => .ok (.scalar .boolean)
  | .integer _ => .ok (.scalar .long)
  | .float _ => .ok (.scalar .double)
  | .string text =>
    match Timestamp.parse text with
    | .ok _ => .ok (.scalar .datetime)
    | .error _ => .ok (.scalar .string)
  | .array [] => .ok (.list (.scalar .string))
  | .array (first :: _) => do
    let element ← first.inferType
    if element.isList then .error .nestedList else .ok (.list element)
  | .object _ => .ok .dictionary

end ThreatGraph
