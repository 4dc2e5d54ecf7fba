import ThreatGraph.Binary64.Layout
import ThreatGraph.Binary64.Numeral
import ThreatGraph.Graph.Quote
import ThreatGraph.Text.Blank
import ThreatGraph.ValueType.Defect
import ThreatGraph.Word

/-!
# Literals

The values of scalar types and their text in a statement. A long is an integer of 64 bits with
sign; it may come as an integer, as a number that is one exactly, or as a numeral in a text. A
double may come as any number or as a numeral. White space around a numeral does not count.
-/

namespace ThreatGraph

/-- A value of a scalar type. -/
inductive Literal where
  | boolean (flag : Bool)
  | long (n : Int)
  | double (x : Binary64)
  | string (text : String)
  | datetime (t : Timestamp)

namespace Literal

/-- Doubles are written in full from the fourth decimal place to the sixteenth place before the
point; exponents carry no plus sign, and ties go up. -/
def doubleLayout : Layout := ⟨-4, 15, [], .up⟩

/-- The integer that a value stands for. A number must be one exactly; the least of the 64-bit
integers is not accepted as a number with a point or an exponent. -/
def readLong (raw : Json) : Except ValueDefect Int :=
  let found : Option Int :=
    match raw with
    | .integer n => some n
    | .float x => x.toInt?.filter fun n => n != Word.least
    | .string text => Numeral.toInt? (Text.trim text.toList)
    | _ => none
  match found.filter Word.fitsSigned with
  | some n => .ok n
  | none => .error (.mismatch .integer raw)

/-- The finite number that a value stands for. -/
def readDouble (raw : Json) : Except ValueDefect Binary64 :=
  let found : Option Binary64 :=
    match raw with
    | .integer n => Binary64.ofInt? n
    | .float x => some x
    | .string text => Numeral.toBinary64? (Text.trim text.toList)
    | _ => none
  match found with
  | some x => .ok x
  | none => .error (.mismatch .finiteNumber raw)

/-- The literal of a scalar type that a value stands for. -/
def read : Scalar → Json → Except ValueDefect Literal
  | .boolean, .bool flag => .ok (.boolean flag)
  | .boolean, raw => .error (.mismatch .boolean raw)
  | .long, raw => (readLong raw).map .long
  | .double, raw => (readDouble raw).map .double
  | .string, .string text => .ok (.string text)
  | .string, raw => .error (.mismatch .string raw)
  | .datetime, .string text =>
    match Timestamp.parse text with
    | .ok t => .ok (.datetime t)
    | .error defect => .error (.timestamp text defect)
  | .datetime, raw => .error (.mismatch .timestamp raw)

/-- The literal as it stands in a statement. -/
def text : Literal → String
  | .boolean flag => if flag then "true" else "false"
  | .long n => toString n
  | .double x => String.ofList (doubleLayout.write x)
  | .string text => quote text
  | .datetime t => t.literal

end Literal

end ThreatGraph
