import ThreatGraph.Text.Cut

/-!
# Value types

What a property's values are: a scalar, a list, a nested object of a named schema, a reference
stored as a relation of a named type, a key-value map of a named schema, an open dictionary,
nothing at all, or a role player of the object itself.

Documents name a value type by its tag. The types that take a parameter write it after a colon;
the first colon counts, so names may hold more of them. A list's elements are not lists.
-/

namespace ThreatGraph

/-- The types whose values are single literals. -/
inductive Scalar where
  | boolean
  | long
  | double
  | string
  | datetime
  deriving DecidableEq, Repr

/-- What the values of a property are. -/
inductive ValueType where
  /-- a single literal -/
  | scalar (scalar : Scalar)
  /-- any number of elements -/
  | list (element : ValueType)
  /-- a nested object, kept as a helper entity -/
  | composite (schema : String)
  /-- the identifier of another object, kept as a relation -/
  | relation (typeName : String)
  /-- a map with keys of a schema -/
  | keyValue (schema : String)
  /-- a map with any keys -/
  | dictionary
  /-- nothing that is kept -/
  | empty
  /-- the identifiers of role players of the object itself -/
  | roleplayer
  deriving DecidableEq, Repr

/-- The tag of a scalar. -/
def Scalar.tag : Scalar → String
  | .boolean => "boolean"
  | .long => "long"
  | .double => "double"
  | .string => "string"
  | .datetime => "datetime"

namespace ValueType

/-- The tag of a value type. -/
def tag : ValueType → String
  | .scalar s => s.tag
  | .list element => "list:" ++ element.tag
  | .composite schema => "composite:" ++ schema
  | .relation typeName => "relation:" ++ typeName
  | .keyValue schema => "key-value:" ++ schema
  | .dictionary => "dictionary"
  | .empty => "empty"
  | .roleplayer => "roleplayer"

/-- Whether values are single literals. -/
def isPrimitive : ValueType → Bool
  | .scalar _ => true
  | _ => false

/-- The type of a list's elements; any other type is its own. -/
def elementType : ValueType → ValueType
  | .list element => element
  | other => other

/-- Whether the type is a list. -/
def isList : ValueType → Bool
  | .list _ => true
  | _ => false

/-- The type that a tag without a parameter names. -/
def ofWord? : String → Option ValueType
  | "boolean" => some (.scalar .boolean)
  | "long" => some (.scalar .long)
  | "double" => some (.scalar .double)
  | "string" => some (.scalar .string)
  | "datetime" => some (.scalar .datetime)
  | "dictionary" => some .dictionary
  | "empty" => some .empty
  | "roleplayer" => some .roleplayer
  | _ => none

/-- The type that a tag with a parameter names, lists apart. -/
def ofNamed? (kind name : String) : Option ValueType :=
  if name.isEmpty then none
  else
    match kind with
    | "composite" => some (.composite name)
    | "relation" => some (.relation name)
    | "key-value" => some (.keyValue name)
    | _ => none

/-- The type that a tag names, if it is not the tag of a list. -/
def ofElementTag? (tag : String) : Option ValueType :=
  match Text.cut? ":" tag with
  | none => ofWord? tag
  | some (kind, name) => ofNamed? kind name

/-- The type that a tag names. -/
def ofTag? (tag : String) : Option ValueType :=
  match Text.cut? ":" tag with
  | some ("list", element) => (ofElementTag? element).map .list
  | _ => ofElementTag? tag

end ValueType

end ThreatGraph
