import ThreatGraph.Graph.Multimap

/-!
# Things: entities and relations

A thing is bound to a scratch variable, has a type of the target schema and carries attribute
values, which are literals ready to be written. A relation also has players under roles; a player
is the variable of another thing.

Equality is about the data that things would insert, so it does not look at variables: a relation's
roles count, not which variables play them, nor how many do. It does not look at the order of
attribute names either.
-/

namespace ThreatGraph

/-- Attribute values by attribute name. -/
abbrev Attributes := Multimap

/-- Adds an attribute value. A name or value without characters is no attribute and is dropped. -/
def Attributes.add (a : Attributes) (name value : String) : Attributes :=
  if name.isEmpty || value.isEmpty then a else Multimap.add a name value

/-- Adds attribute values one after the other. -/
def Attributes.addAll (a : Attributes) (name : String) (values : List String) : Attributes :=
  values.foldl (fun a value => a.add name value) a

/-- An entity to be matched or inserted. -/
structure Entity where
  /-- the scratch variable, without its mark -/
  var : String
  /-- the type in the target schema -/
  typeName : String
  /-- the attribute values -/
  attributes : Attributes := []

/-- A relation to be inserted. -/
structure Relation where
  /-- the scratch variable, without its mark -/
  var : String
  /-- the type in the target schema -/
  typeName : String
  /-- the attribute values -/
  attributes : Attributes := []
  /-- the variables that play each role -/
  roles : Multimap := []

/-- An entity or a relation. -/
inductive Thing where
  | entity (entity : Entity)
  | relation (relation : Relation)

namespace Entity

/-- The entity with one more attribute value. -/
def addAttribute (e : Entity) (name value : String) : Entity :=
  { e with attributes := e.attributes.add name value }

/-- The entity with more attribute values of one name. -/
def addAttributes (e : Entity) (name : String) (values : List String) : Entity :=
  { e with attributes := e.attributes.addAll name values }

instance : BEq Entity where
  beq a b := a.typeName == b.typeName && a.attributes.agrees b.attributes

end Entity

namespace Relation

/-- The relation with one more attribute value. -/
def addAttribute (r : Relation) (name value : String) : Relation :=
  { r with attributes := r.attributes.add name value }

/-- The relation with more attribute values of one name. -/
def addAttributes (r : Relation) (name : String) (values : List String) : Relation :=
  { r with attributes := r.attributes.addAll name values }

/-- The relation in which `player` plays `role` as well. -/
def addPlayer (r : Relation) (role player : String) : Relation :=
  { r with roles := r.roles.add role player }

/-- The players of `role`. -/
def players? (r : Relation) (role : String) : Option (List String) := r.roles.get? role

/-- Whether some role has a player. -/
def hasRoles (r : Relation) : Bool := !r.roles.isEmpty

instance : BEq Relation where
  beq a b :=
    a.typeName == b.typeName && a.attributes.agrees b.attributes && a.roles.sameNames b.roles

end Relation

namespace Thing

/-- The scratch variable. -/
def var : Thing → String
  | .entity e => e.var
  | .relation r => r.var

/-- The type in the target schema. -/
def typeName : Thing → String
  | .entity e => e.typeName
  | .relation r => r.typeName

/-- The attribute values. -/
def attributes : Thing → Attributes
  | .entity e => e.attributes
  | .relation r => r.attributes

/-- The thing with one more attribute value. -/
def addAttribute : Thing → String → String → Thing
  | .entity e, name, value => .entity (e.addAttribute name value)
  | .relation r, name, value => .relation (r.addAttribute name value)

instance : BEq Thing where
  beq
    | .entity a, .entity b => a == b
    | .relation a, .relation b => a == b
    | _, _ => false

end Thing

end ThreatGraph
