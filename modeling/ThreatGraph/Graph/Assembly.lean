import ThreatGraph.Graph.Statement

/-!
# Assembling the statements of one object

Up to three statements are assembled for an object: one that creates the main thing that stands for
it, one for helpers that hold its structured values, and one for links to objects that are stored on
their own. A tag beside them says what the main thing is. An edit changes these four parts one after
the other, and one that is refused leaves them as it has changed them up to there (`Edit`): nothing
but the order of its steps keeps the tag in accord with the statements.

`Assembly.order` puts the parts into the statements that are run: the main thing together with the
helpers, as an entity or as a relation, and then the links, which match both their ends by
identifier.
-/

namespace ThreatGraph

/-- What stands for an object. -/
inductive MainKind where
  /-- nothing, so far -/
  | none
  /-- an entity -/
  | entity
  /-- a relation -/
  | relation
  deriving DecidableEq, Repr

/-- Why an edit is refused, or the parts cannot be put in order. -/
inductive DraftDefect where
  /-- there would be two things that stand for the object -/
  | twoMainThings
  /-- there are helpers or links and nothing that stands for the object -/
  | noMainThing
  deriving DecidableEq, Repr

/-- The defect in words. -/
def DraftDefect.message : DraftDefect → String
  | .twoMainThings => "a bundle can hold only one main object"
  | .noMainThing => "statements were produced without a main object"

/-- Statements in the order in which they are run. -/
structure OrderedStatements where
  /-- the object as an entity, with its helpers -/
  entities : Option Statement := none
  /-- the object as a relation, with its helpers -/
  relations : Option Statement := none
  /-- the links -/
  embedded : Option Statement := none

namespace OrderedStatements

/-- Whether there is no statement at all. -/
def isEmpty (s : OrderedStatements) : Bool :=
  s.entities.isNone && s.relations.isNone && s.embedded.isNone

end OrderedStatements

namespace Statement

/-- The statement that matches one thing more. -/
def pushMatched (thing : Thing) : Statement → Statement
  | ⟨matched, inserted⟩ => ⟨matched ++ [thing], inserted⟩

/-- The statement that inserts one thing more. -/
def pushInserted (thing : Thing) : Statement → Statement
  | ⟨matched, inserted⟩ => ⟨matched, inserted ++ [thing]⟩

end Statement

/-- The statements of one object while they are put together. -/
structure Assembly where
  /-- the statement that creates the main thing -/
  main : Statement := {}
  /-- what the main thing is -/
  kind : MainKind := .none
  /-- the statement that creates the helpers -/
  helpers : Statement := {}
  /-- the statement that creates the links -/
  links : Statement := {}

namespace Assembly

/-- The assembly with another main statement. -/
def mapMain (change : Statement → Statement) : Assembly → Assembly
  | ⟨main, kind, helpers, links⟩ => ⟨change main, kind, helpers, links⟩

/-- The assembly with other helpers. -/
def mapHelpers (change : Statement → Statement) : Assembly → Assembly
  | ⟨main, kind, helpers, links⟩ => ⟨main, kind, change helpers, links⟩

/-- The assembly with other links. -/
def mapLinks (change : Statement → Statement) : Assembly → Assembly
  | ⟨main, kind, helpers, links⟩ => ⟨main, kind, helpers, change links⟩

/-- The assembly with another tag. -/
def tag (kind : MainKind) : Assembly → Assembly
  | ⟨main, _, helpers, links⟩ => ⟨main, kind, helpers, links⟩

end Assembly

/-- A change of an assembly that may be refused. What was changed before that stays changed. -/
abbrev Edit := ExceptT DraftDefect (StateM Assembly)

namespace Edit

/-- What the edit says of an assembly, and what it leaves behind. -/
def on (edit : Edit Unit) (a : Assembly) : Except DraftDefect Unit × Assembly :=
  Id.run (edit.run.run a)

/-- Refuses to go on if there is a main thing. -/
def requireNoMain : Edit Unit := do
  if (← get).kind ≠ .none then throw .twoMainThings

/-- The edits of a list, one after the other. -/
def each {α : Type} (edit : α → Edit Unit) (xs : List α) : Edit Unit :=
  xs.foldl (fun edits x => do edits; edit x) (pure ())

/-- Makes an entity the main thing. -/
def addMainEntity (entity : Entity) : Edit Unit := do
  requireNoMain
  modify (Assembly.mapMain (Statement.pushInserted (.entity entity)))
  modify (Assembly.tag .entity)

/-- Makes a relation the main thing; its players are matched. -/
def addMainRelation (relation : Relation) (players : List Entity) : Edit Unit := do
  requireNoMain
  each (fun player => modify (Assembly.mapMain (Statement.pushMatched (.entity player)))) players
  modify (Assembly.mapMain (Statement.pushInserted (.relation relation)))
  modify (Assembly.tag .relation)

/-- Adds a helper and the relation that ties it to its owner. -/
def addHelper (entity : Entity) (relation : Relation) : Edit Unit := do
  modify (Assembly.mapHelpers (Statement.pushInserted (.entity entity)))
  modify (Assembly.mapHelpers (Statement.pushInserted (.relation relation)))

/-- Adds a link between two objects, which are matched. -/
def addLink (owner target : Entity) (relation : Relation) : Edit Unit := do
  modify (Assembly.mapLinks (Statement.pushMatched (.entity owner)))
  modify (Assembly.mapLinks (Statement.pushMatched (.entity target)))
  modify (Assembly.mapLinks (Statement.pushInserted (.relation relation)))

/-- Adds what another assembly holds. At most one of the two may have a main thing. -/
def extend (other : Assembly) : Edit Unit := do
  if other.kind ≠ .none then
    requireNoMain
    modify (Assembly.tag other.kind)
  modify (Assembly.mapMain (· ++ other.main))
  modify (Assembly.mapHelpers (· ++ other.helpers))
  modify (Assembly.mapLinks (· ++ other.links))

end Edit

namespace Assembly

/-- Whether all statements are empty. -/
def isEmpty (a : Assembly) : Bool := a.main.isEmpty && a.helpers.isEmpty && a.links.isEmpty

/-- The statements of an assembly in the order in which they are run. Helpers and links are nothing
without a main thing. -/
def order (a : Assembly) : Except DraftDefect OrderedStatements := do
  let primary := a.main ++ a.helpers
  let (entities, relations) ←
    match a.kind with
    | .entity => pure (primary.nonempty?, none)
    | .relation => pure (none, primary.nonempty?)
    | .none =>
      if primary.isEmpty && a.links.isEmpty then pure (none, none) else throw .noMainThing
  return { entities, relations, embedded := a.links.nonempty? }

instance : BEq Assembly where
  beq a b := a.kind == b.kind && a.main == b.main && a.helpers == b.helpers && a.links == b.links

end Assembly

end ThreatGraph
