import ThreatGraph.Graph.Assembly

/-!
# Drafts: what becomes of one object

Converting an object drafts up to three things: the main thing that stands for it, helpers that
hold its structured values, and links to objects that are stored on their own. A draft keeps them
apart until all of them are there. Then they are assembled, edit by edit: helpers and links in an
assembly of their own, by which the one with the main thing is extended (`Draft.assembly`), and the
statements are put in order as those of an assembly are.
-/

namespace ThreatGraph

/-- A helper entity and the relation that ties it to its owner. -/
structure Helper where
  /-- the helper -/
  entity : Entity
  /-- the tie -/
  relation : Relation

/-- A relation between two objects that are both matched. -/
structure Link where
  /-- the object that refers -/
  owner : Entity
  /-- the object that is referred to -/
  target : Entity
  /-- the relation between them -/
  relation : Relation

/-- The thing that stands for an object. -/
inductive MainThing where
  /-- the object is stored as an entity -/
  | entity (entity : Entity)
  /-- the object is stored as a relation between matched entities -/
  | relation (relation : Relation) (players : List Entity)

/-- Helpers and links, as single values need them. -/
structure Attachments where
  /-- the helpers in the order in which they were needed -/
  helpers : List Helper := []
  /-- the links in the order in which they were needed -/
  links : List Link := []

/-- What was drafted for one object. -/
structure Draft extends Attachments where
  /-- the thing that stands for the object -/
  main : Option MainThing := none

namespace MainThing

/-- The statement that creates the main thing. -/
def statement : MainThing → Statement
  | .entity e => { inserted := [.entity e] }
  | .relation r players => { matched := players.map .entity, inserted := [.relation r] }

/-- The edit that makes it the main thing of an assembly. -/
def edit : MainThing → Edit Unit
  | .entity e => Edit.addMainEntity e
  | .relation r players => Edit.addMainRelation r players

end MainThing

namespace Attachments

/-- What either of them holds. -/
def append (a b : Attachments) : Attachments := ⟨a.helpers ++ b.helpers, a.links ++ b.links⟩

instance : Append Attachments := ⟨append⟩

/-- Whether there is no helper and no link. -/
def isEmpty (a : Attachments) : Bool := a.helpers.isEmpty && a.links.isEmpty

/-- One helper. -/
def helper (entity : Entity) (relation : Relation) : Attachments :=
  { helpers := [⟨entity, relation⟩] }

/-- One link. -/
def link (owner target : Entity) (relation : Relation) : Attachments :=
  { links := [⟨owner, target, relation⟩] }

/-- The statement that creates the helpers. -/
def helperStatement (a : Attachments) : Statement :=
  { inserted := a.helpers.flatMap fun h => [.entity h.entity, .relation h.relation] }

/-- The statement that creates the links. -/
def linkStatement (a : Attachments) : Statement where
  matched := a.links.flatMap fun l => [.entity l.owner, .entity l.target]
  inserted := a.links.map fun l => .relation l.relation

/-- The edits that add the helpers to an assembly, and then the links. -/
def edit (a : Attachments) : Edit Unit := do
  Edit.each (fun h => Edit.addHelper h.entity h.relation) a.helpers
  Edit.each (fun l => Edit.addLink l.owner l.target l.relation) a.links

/-- The assembly of helpers and links alone. -/
def assembly (a : Attachments) : Assembly := (a.edit.on {}).2

end Attachments

namespace Draft

/-- What stands for the object. -/
def kind (d : Draft) : MainKind :=
  match d.main with
  | none => .none
  | some (.entity _) => .entity
  | some (.relation _ _) => .relation

/-- The statement that creates the main thing; it is empty without one. -/
def mainStatement (d : Draft) : Statement := d.main.elim {} MainThing.statement

/-- Whether nothing was drafted. -/
def isEmpty (d : Draft) : Bool := d.main.isNone && d.toAttachments.isEmpty

/-- The draft with more helpers and links. -/
def attach (d : Draft) (a : Attachments) : Draft := { d with toAttachments := d.toAttachments ++ a }

/-- The draft with its main thing. There can be only one. -/
def addMain (d : Draft) (main : MainThing) : Except DraftDefect Draft :=
  if d.main.isSome then .error .twoMainThings else .ok { d with main := some main }

/-- What either draft holds. At most one of them may have a main thing. -/
def extend (d other : Draft) : Except DraftDefect Draft :=
  match other.main with
  | none => .ok (d.attach other.toAttachments)
  | some main => (d.addMain main).map fun d => d.attach other.toAttachments

/-- The edits that add the main thing to an assembly, if there is one, and then what is attached to
it. -/
def edit (d : Draft) : Edit Unit := do
  d.main.forM MainThing.edit
  Edit.extend d.toAttachments.assembly

/-- The assembly that a draft stands for. -/
def assembly (d : Draft) : Assembly := (d.edit.on {}).2

/-- The statements of a draft in the order in which they are run. -/
def order (d : Draft) : Except DraftDefect OrderedStatements := d.assembly.order

instance : BEq Draft where
  beq a b := a.assembly == b.assembly

end Draft

end ThreatGraph
