import ThreatGraph.Conversion.Object

/-!
# Converting many objects

Objects are converted one by one and none influences another. The statements of all of them are
gathered in three slots, which are run one after the other: entities, relations, and last the
links between objects. Objects that fail are reported and do not end the run.
-/

namespace ThreatGraph

/-- An object that was not converted. -/
structure Failure where
  /-- its identifier, if it has one -/
  stixId : Option String
  /-- why it failed -/
  defect : ObjectDefect

/-- What objects are converted to. -/
structure Collection where
  /-- the number of objects -/
  objects : Nat := 0
  /-- statements for objects that are entities, which are run first -/
  entities : List Statement := []
  /-- statements for objects that are relations -/
  relations : List Statement := []
  /-- statements for links, which are run last -/
  embedded : List Statement := []
  /-- the objects that failed -/
  failures : List Failure := []
  /-- the properties left out, each with the identifier of its object -/
  skipped : List (String × Skipped) := []

namespace Collection

/-- What either of them holds. -/
def append (a b : Collection) : Collection where
  objects := a.objects + b.objects
  entities := a.entities ++ b.entities
  relations := a.relations ++ b.relations
  embedded := a.embedded ++ b.embedded
  failures := a.failures ++ b.failures
  skipped := a.skipped ++ b.skipped

instance : Append Collection := ⟨append⟩

/-- What one object is converted to. -/
def ofObject (mapping : Mapping) (strict : Bool) (object : Members) : Collection :=
  match convertObject mapping strict object with
  | .ok conversion =>
    { objects := 1
      entities := conversion.statements.entities.toList
      relations := conversion.statements.relations.toList
      embedded := conversion.statements.embedded.toList
      skipped := conversion.skipped.map fun skipped => (conversion.stixId, skipped) }
  | .error defect => { objects := 1, failures := [⟨object.text? "id", defect⟩] }

/-- What objects are converted to. -/
def ofObjects (mapping : Mapping) (strict : Bool) : List Members → Collection
  | [] => {}
  | object :: rest => ofObject mapping strict object ++ ofObjects mapping strict rest

/-- The number of statements. -/
def statementCount (c : Collection) : Nat :=
  c.entities.length + c.relations.length + c.embedded.length

/-- The slots in the order in which they are run, with their names. -/
def slots (c : Collection) : List (String × List Statement) :=
  [("entities", c.entities), ("relations", c.relations), ("embedded relations", c.embedded)]

end Collection

end ThreatGraph
