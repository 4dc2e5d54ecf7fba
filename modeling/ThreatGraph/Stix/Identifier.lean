import ThreatGraph.Text.Cut

/-!
# Identifiers and names of role pairs

A STIX identifier begins with the type of its object, followed by two hyphens. A relation that
stands for a reference is named by the two roles in it, with two colons between them.
-/

namespace ThreatGraph.Stix

/-- The type of the object that an identifier names. -/
def typeOfId? (id : String) : Option String :=
  match Text.cut? "--" id with
  | some (typeName, _) => if typeName.isEmpty then none else some typeName
  | none => none

/-- The role of the referring and that of the referenced object in a name. -/
def rolePair? (name : String) : Option (String × String) :=
  match Text.cut? "::" name with
  | some (owner, target) => if owner.isEmpty || target.isEmpty then none else some (owner, target)
  | none => none

end ThreatGraph.Stix
