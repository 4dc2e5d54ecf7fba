import ThreatGraph.Graph.Thing

/-!
# Statements

A statement matches things that exist and inserts new ones. Its text lists them line by line,
first those it matches, each as a pattern that ends in a semicolon. A statement that inserts
nothing has no text, and one with a relation that nobody plays a role in cannot be written.
-/

namespace ThreatGraph

/-- Things to match, then things to insert. -/
structure Statement where
  /-- things that are referred to -/
  matched : List Thing := []
  /-- things that are created -/
  inserted : List Thing := []

/-- A relation without players, which has no text. -/
structure RoleDefect where
  /-- the relation's variable -/
  var : String
  /-- the relation's type -/
  typeName : String
  deriving DecidableEq, Repr

/-- The defect in words. -/
def RoleDefect.message (d : RoleDefect) : String :=
  "relation $" ++ d.var ++ " of type '" ++ d.typeName ++ "' must have at least one role"

/-- The attribute values of a pattern. -/
def Attributes.text (a : Attributes) : String :=
  String.join ((Multimap.pairs a).map fun (name, value) => ", has " ++ name ++ " " ++ value)

/-- The pattern of an entity. -/
def Entity.text (e : Entity) : String :=
  "$" ++ e.var ++ " isa " ++ e.typeName ++ e.attributes.text ++ ";"

/-- The pattern of a relation that has players. -/
def Relation.text (r : Relation) : Except RoleDefect String :=
  if r.hasRoles then
    let players := r.roles.pairs.map fun (role, player) => role ++ ": $" ++ player
    .ok ("$" ++ r.var ++ " (" ++ String.intercalate ", " players ++ ") isa " ++ r.typeName ++
      r.attributes.text ++ ";")
  else .error ⟨r.var, r.typeName⟩

/-- The pattern of a thing. -/
def Thing.text : Thing → Except RoleDefect String
  | .entity e => .ok e.text
  | .relation r => r.text

/-- The patterns of things, one a line. -/
def patternLines : List Thing → Except RoleDefect String
  | [] => .ok ""
  | thing :: rest => do
    let first ← thing.text
    let others ← patternLines rest
    return first ++ "\n" ++ others

namespace Statement

/-- Whether nothing is matched and nothing inserted. -/
def isEmpty (s : Statement) : Bool := s.matched.isEmpty && s.inserted.isEmpty

/-- Both statements in one: what either matches, and what either inserts. -/
def append (s other : Statement) : Statement :=
  ⟨s.matched ++ other.matched, s.inserted ++ other.inserted⟩

instance : Append Statement := ⟨append⟩

instance : BEq Statement where
  beq a b := a.matched == b.matched && a.inserted == b.inserted

/-- The statement, or nothing if it is empty. -/
def nonempty? (s : Statement) : Option Statement := if s.isEmpty then none else some s

/-- The text of a statement. -/
def text (s : Statement) : Except RoleDefect String := do
  if s.inserted.isEmpty then return ""
  let references ← patternLines s.matched
  let head := if s.matched.isEmpty then "" else "match\n" ++ references
  let inserts ← patternLines s.inserted
  return head ++ "insert\n" ++ inserts

end Statement

end ThreatGraph
