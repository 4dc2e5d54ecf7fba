import ThreatGraph.Graph.Quote
import ThreatGraph.Graph.Thing
import ThreatGraph.Graph.Variables

/-!
# References

How an object can be referred to from a statement: by the variable that it is bound to in that
statement, or, from any statement, by its identifier and type.
-/

namespace ThreatGraph

/-- The attribute that holds the identifier of a stored object. -/
def idAttribute : String := "stix-id"

/-- What is known of an object that is referred to. -/
structure Reference where
  /-- its identifier -/
  stixId : Option String
  /-- the variable that it is bound to -/
  var : Option String
  /-- its type in the target schema -/
  typeName : Option String
  deriving DecidableEq, Repr

/-- What a reference lacks for a use that is made of it. -/
inductive ReferenceDefect where
  | noStixId
  | noVariable
  | noTypeName
  deriving DecidableEq, Repr

/-- The defect in words. -/
def ReferenceDefect.message : ReferenceDefect → String
  | .noStixId => "the referenced object has no STIX id"
  | .noVariable => "the referenced object has no variable"
  | .noTypeName => "the referenced object has no type"

namespace Reference

/-- A reference from what is known; a text without characters says nothing. -/
def known (stixId var typeName : Option String) : Reference :=
  let told (text : Option String) := text.filter fun s => !s.isEmpty
  ⟨told stixId, told var, told typeName⟩

/-- The identifier, which is needed. -/
def requireId (r : Reference) : Except ReferenceDefect String :=
  r.stixId.elim (.error .noStixId) .ok

/-- The variable, which is needed. -/
def requireVar (r : Reference) : Except ReferenceDefect String :=
  r.var.elim (.error .noVariable) .ok

/-- The type, which is needed. -/
def requireType (r : Reference) : Except ReferenceDefect String :=
  r.typeName.elim (.error .noTypeName) .ok

/-- An entity that matches the object by its identifier, bound to a fresh variable. -/
def matchEntity (r : Reference) : Naming ReferenceDefect Entity := do
  let typeName ← Naming.ofExcept r.requireType
  let stixId ← Naming.ofExcept r.requireId
  let var ← Naming.fresh
  let entity : Entity := { var, typeName }
  return entity.addAttribute idAttribute (quote stixId)

end Reference

end ThreatGraph
