import ThreatGraph.Json.Token

/-!
# Reading JSON

The reader is a machine with a stack. Its state is what may come next together with the
containers that are open, and each token takes it to the next state or is refused. A text is read
when its tokens lead from `start` to a `finished` value.

How deep containers may lie inside each other is bounded: `depthLimit` is what documents and
bundles are held to.
-/

namespace ThreatGraph.Json

/-- How many containers may be open at once in documents and bundles. -/
def depthLimit : Nat := 127

/-- A container around the value that is being read, with what it holds so far, the last first. -/
inductive Frame where
  /-- a list with these items before the value -/
  | items (before : List Json)
  /-- an object with these members before the value, which is the member `name` -/
  | member (before : List (String × Json)) (name : String)

/-- What may come next. -/
inductive Reading where
  /-- a value, or the end of the list if nothing stands in it yet -/
  | value (first : Bool) (stack : List Frame)
  /-- a member's name, or the end of the object if nothing stands in it yet -/
  | name (first : Bool) (before : List (String × Json)) (stack : List Frame)
  /-- the colon after a member's name -/
  | colon (before : List (String × Json)) (name : String) (stack : List Frame)
  /-- a comma or the end of the list that holds these items -/
  | afterItem (items : List Json) (stack : List Frame)
  /-- a comma or the end of the object that holds these members -/
  | afterMember (members : List (String × Json)) (stack : List Frame)
  /-- nothing more -/
  | finished (value : Json)

namespace Reading

/-- The state before the first token. -/
def start : Reading := .value false []

/-- A value is complete: it goes into the innermost open container. -/
def complete (result : Json) : List Frame → Reading
  | [] => .finished result
  | .items before :: stack => .afterItem (result :: before) stack
  | .member before label :: stack => .afterMember ((label, result) :: before) stack

/-- The state after one more token, with at most `limit` containers open. -/
def step (limit : Nat) : Reading → Token → Option Reading
  | .value _ stack, .text text => some (complete (.string text) stack)
  | .value _ stack, .scalar result => some (complete result stack)
  | .value _ stack, .openArray =>
    if stack.length < limit then some (.value true (.items [] :: stack)) else none
  | .value _ stack, .openObject =>
    if stack.length < limit then some (.name true [] stack) else none
  | .value true (.items before :: stack), .closeArray =>
    some (complete (.array before.reverse) stack)
  | .name _ before stack, .text label => some (.colon before label stack)
  | .name true before stack, .closeObject => some (complete (.object before.reverse) stack)
  | .colon before label stack, .colon => some (.value false (.member before label :: stack))
  | .afterItem items stack, .comma => some (.value false (.items items :: stack))
  | .afterItem items stack, .closeArray => some (complete (.array items.reverse) stack)
  | .afterMember members stack, .comma => some (.name false members stack)
  | .afterMember members stack, .closeObject => some (complete (.object members.reverse) stack)
  | _, _ => none

end Reading

/-- The value that a text states, with members named twice still in it. -/
def parse? (limit : Nat) (text : String) : Option Json := do
  let tokens ← tokens? text.toList
  match ← tokens.foldlM (Reading.step limit) .start with
  | .finished value => some value
  | _ => none

/-- The value that a text states. Of a member named twice the last value counts. -/
def read? (limit : Nat) (text : String) : Option Json := (parse? limit text).map merged

end ThreatGraph.Json
