import ThreatGraph.Binary64.Basic
import ThreatGraph.Table

/-!
# JSON values

Numbers come in two kinds: integers that fit a signed or an unsigned 64-bit word, and binary64
numbers. Objects keep their members in order. A text may name a member twice; the value as read
has both, and `merged` is the value in which the last of them counts, at the place of the first.
-/

namespace ThreatGraph

/-- A JSON value. -/
inductive Json where
  /-- the literal null -/
  | null
  /-- a truth value -/
  | bool (flag : Bool)
  /-- a number written without point and exponent that fits 64 bits -/
  | integer (n : Int)
  /-- any other number -/
  | float (x : Binary64)
  /-- a text -/
  | string (text : String)
  /-- a list of values -/
  | array (items : List Json)
  /-- named values in order -/
  | object (members : List (String × Json))

/-- The named values of one object. -/
abbrev Members := List (String × Json)

namespace Json

/-- The text, if the value is one. -/
def text? : Json → Option String
  | .string text => some text
  | _ => none

/-- The members, if the value is an object. -/
def members? : Json → Option Members
  | .object members => some members
  | _ => none

mutual

/-- The value in which a member named twice has its last value, here and further inside. -/
def merged : Json → Json
  | .array items => .array (mergedItems items)
  | .object members => .object (Table.ofPairs (mergedMembers members))
  | other => other

/-- The items, each of them merged. -/
def mergedItems : List Json → List Json
  | [] => []
  | item :: rest => item.merged :: mergedItems rest

/-- The members as they are listed, each value merged. -/
def mergedMembers : List (String × Json) → List (String × Json)
  | [] => []
  | (name, value) :: rest => (name, value.merged) :: mergedMembers rest

end

end Json

namespace Members

/-- The value of the member `name`. -/
def get? (members : Members) (name : String) : Option Json := Table.get? members name

/-- The value of the member `name`, if it is a text. -/
def text? (members : Members) (name : String) : Option String := (members.get? name).bind Json.text?

end Members

end ThreatGraph
