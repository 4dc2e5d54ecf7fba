import Mathlib.Data.Multiset.AddSub
import Mathlib.Data.Option.Basic
import ThreatGraph.Proofs.Omission

/-!
# What does not hang on names and order

Two conversions can say the same though their variables are called differently and their things
come in another order. What they say is told by the contents of things: kind, type, and the values
under each attribute name. `Conversion.Alike` compares conversions by that; of the things that stand
for the objects it also compares who plays which role.

Being alike is an equivalence that every builder keeps: joining, in either order, renaming, adding
attributes and putting a draft in order. So what is shown of single properties is carried to
conversions without looking at statements again (`Draft.Alike.order`).
-/

namespace ThreatGraph

/-! ## Contents -/

/-- The values that are filed under a name. -/
def Attributes.under (a : Attributes) (name : String) : List String :=
  (Multimap.get? a name).getD []

/-- The values that are filed under a name, in any order. -/
def Attributes.values (a : Attributes) (name : String) : Multiset String := a.under name

namespace Thing

/-- What a thing is, but for its variable and its players. -/
structure Content where
  /-- whether it is a relation -/
  isRelation : Bool
  /-- its type -/
  typeName : String
  /-- its values under each attribute name -/
  values : String → Multiset String

/-- What a thing is, but for its variable and its players. -/
def content : Thing → Content
  | .entity e => ⟨false, e.typeName, e.attributes.values⟩
  | .relation r => ⟨true, r.typeName, r.attributes.values⟩

/-- The variables of the players of a role. -/
def players : Thing → String → List String
  | .entity _, _ => []
  | .relation r, role => (r.players? role).getD []

/-- Renaming variables leaves what a thing says of itself. -/
theorem content_rename (ρ : String → String) (thing : Thing) :
    (thing.rename ρ).content = thing.content := by
  cases thing <;> rfl

end Thing

namespace Statement

/-- The statements match things of the same contents and insert things of the same contents. -/
structure Alike (s t : Statement) : Prop where
  matched : (s.matched.map Thing.content).Perm (t.matched.map Thing.content)
  inserted : (s.inserted.map Thing.content).Perm (t.inserted.map Thing.content)

/-- The identifiers by which things with the variable are matched. -/
def matchedIds (s : Statement) (x : String) : List String :=
  (s.matched.filter fun thing => thing.var = x).flatMap fun thing =>
    thing.attributes.under idAttribute

/-- What the statements insert first has the same contents, and each role in it is played by the
objects of the same identifiers, in the same order. -/
def SameMain (s t : Statement) : Prop :=
  ∃ main main', s.inserted.head? = some main ∧ t.inserted.head? = some main' ∧
    main.content = main'.content ∧
    ∀ role, (main.players role).map s.matchedIds = (main'.players role).map t.matchedIds

end Statement

/-- The same statements are there, and each says the same. -/
structure OrderedStatements.Alike (s t : OrderedStatements) : Prop where
  entities : Option.Rel (fun a b => a.Alike b ∧ a.SameMain b) s.entities t.entities
  relations : Option.Rel (fun a b => a.Alike b ∧ a.SameMain b) s.relations t.relations
  embedded : Option.Rel Statement.Alike s.embedded t.embedded

/-- The conversions are of the same object, say the same, and leave out the same properties for the
same reasons. -/
structure Conversion.Alike (c d : Conversion) : Prop where
  stixId : c.stixId = d.stixId
  statements : c.statements.Alike d.statements
  skipped : c.skipped.Perm d.skipped

/-! ## Statements -/

namespace Statement.Alike

variable {s s' t t' u : Statement}

theorem refl (s : Statement) : s.Alike s := ⟨.refl _, .refl _⟩

theorem symm (h : s.Alike t) : t.Alike s := ⟨h.matched.symm, h.inserted.symm⟩

theorem trans (h : s.Alike t) (h' : t.Alike u) : s.Alike u :=
  ⟨h.matched.trans h'.matched, h.inserted.trans h'.inserted⟩

theorem append (h : s.Alike t) (h' : s'.Alike t') : (s ++ s').Alike (t ++ t') where
  matched := by
    change ((s.matched ++ s'.matched).map _).Perm ((t.matched ++ t'.matched).map _)
    rw [List.map_append, List.map_append]
    exact h.matched.append h'.matched
  inserted := by
    change ((s.inserted ++ s'.inserted).map _).Perm ((t.inserted ++ t'.inserted).map _)
    rw [List.map_append, List.map_append]
    exact h.inserted.append h'.inserted

theorem append_comm (s t : Statement) : (s ++ t).Alike (t ++ s) where
  matched := List.perm_append_comm.map _
  inserted := List.perm_append_comm.map _

/-- Renaming variables changes nothing of what is said. -/
theorem rename (ρ : String → String) (s : Statement) : (s.rename ρ).Alike s := by
  have hcontents (things : List Thing) :
      (things.map (Thing.rename ρ)).map Thing.content = things.map Thing.content := by
    rw [List.map_map]
    exact List.map_congr_left fun thing _ => thing.content_rename ρ
  exact ⟨.of_eq (hcontents _), .of_eq (hcontents _)⟩

/-- Statements that say the same are left out together if they are empty. -/
theorem nonempty? (h : s.Alike t) : Option.Rel Statement.Alike s.nonempty? t.nonempty? := by
  have hmatched := h.matched.isEmpty_eq
  have hinserted := h.inserted.isEmpty_eq
  rw [List.isEmpty_map, List.isEmpty_map] at hmatched hinserted
  rw [Statement.nonempty?, Statement.nonempty?, Statement.isEmpty, Statement.isEmpty, hmatched,
    hinserted]
  split
  · exact .none
  · exact .some h

end Statement.Alike

/-! ## Attribute values -/

namespace Attributes

/-- The values of one attribute among those that are given, without those that are dropped. -/
def given (attributes : List (String × List String)) (name : String) : List String :=
  attributes.flatMap fun a => if a.1 = name ∧ name ≠ "" then a.2.filter (· ≠ "") else []

/-- A value that is added comes last of the values for its name. -/
theorem under_add (a : Attributes) (name value other : String) :
    (a.add name value).under other = a.under other ++ given [(name, [value])] other := by
  rw [add]
  split
  -- what has no characters is dropped
  · next h =>
    rw [Bool.or_eq_true, String.isEmpty_iff, String.isEmpty_iff] at h
    rcases h with rfl | rfl
    · simp +contextual [given, eq_comm]
    · simp [given]
  · next h =>
    rw [Bool.or_eq_true, String.isEmpty_iff, String.isEmpty_iff, not_or] at h
    rw [under, under, Multimap.get?_add]
    by_cases hname : name = other
    · subst hname
      simp [given, h]
    · simp [given, hname]

theorem under_addAll (a : Attributes) (name other : String) (values : List String) :
    (a.addAll name values).under other = a.under other ++ given [(name, values)] other := by
  induction values generalizing a with
  | nil => simp [addAll, given]
  | cons value rest ih =>
    have hgiven : given [(name, value :: rest)] other =
        given [(name, [value])] other ++ given [(name, rest)] other := by
      simp only [given, List.flatMap_cons, List.flatMap_nil, List.append_nil]
      split
      · exact List.filter_append [value] rest
      · rfl
    rw [hgiven, ← List.append_assoc, ← under_add]
    exact ih (a.add name value)

/-- Attributes that are added one after the other have their values in the order in which they were
added. -/
theorem under_foldl_addAll (attributes : List (String × List String)) (a : Attributes)
    (name : String) :
    under (attributes.foldl (fun a given => a.addAll given.1 given.2) a) name =
      a.under name ++ given attributes name := by
  induction attributes generalizing a with
  | nil => simp [given]
  | cons first rest ih =>
    rw [List.foldl_cons, ih, under_addAll, List.append_assoc]
    simp [given]

/-- In which order attributes are added shows only in the order of their values. -/
theorem values_foldl_addAll {attributes attributes' : List (String × List String)}
    (h : attributes.Perm attributes') (a : Attributes) :
    values (attributes.foldl (fun a given => a.addAll given.1 given.2) a) =
      values (attributes'.foldl (fun a given => a.addAll given.1 given.2) a) := by
  funext name
  rw [values, values, under_foldl_addAll, under_foldl_addAll]
  exact Multiset.coe_eq_coe.mpr ((h.flatMap_right _).append_left _)

end Attributes

/-! ## Attachments and what properties are converted to -/

/-- The statements that create the helpers say the same, and so do those that create the links. -/
structure Attachments.Alike (a b : Attachments) : Prop where
  helpers : a.helperStatement.Alike b.helperStatement
  links : a.linkStatement.Alike b.linkStatement

namespace Attachments.Alike

variable {a a' b b' c : Attachments}

theorem trans (h : a.Alike b) (h' : b.Alike c) : a.Alike c :=
  ⟨h.helpers.trans h'.helpers, h.links.trans h'.links⟩

/-- The statement of helpers is made helper by helper. -/
theorem helperStatement_append (a b : Attachments) :
    (a ++ b).helperStatement = a.helperStatement ++ b.helperStatement := by
  change Statement.mk [] ((a.helpers ++ b.helpers).flatMap _) = Statement.mk _ _
  rw [List.flatMap_append]
  rfl

/-- The statement of links is made link by link. -/
theorem linkStatement_append (a b : Attachments) :
    (a ++ b).linkStatement = a.linkStatement ++ b.linkStatement := by
  change Statement.mk ((a.links ++ b.links).flatMap _) ((a.links ++ b.links).map _) =
    Statement.mk _ _
  rw [List.flatMap_append, List.map_append]
  rfl

theorem append (h : a.Alike b) (h' : a'.Alike b') : (a ++ a').Alike (b ++ b') := by
  constructor
  · rw [helperStatement_append, helperStatement_append]
    exact h.helpers.append h'.helpers
  · rw [linkStatement_append, linkStatement_append]
    exact h.links.append h'.links

theorem append_comm (a b : Attachments) : (a ++ b).Alike (b ++ a) := by
  constructor
  · rw [helperStatement_append, helperStatement_append]
    exact .append_comm _ _
  · rw [linkStatement_append, linkStatement_append]
    exact .append_comm _ _

/-- Renaming variables changes nothing of what they say. -/
theorem rename (ρ : String → String) (a : Attachments) : (a.rename ρ).Alike a := by
  constructor
  · rw [helperStatement_rename]
    exact .rename ρ _
  · rw [linkStatement_rename]
    exact .rename ρ _

end Attachments.Alike

namespace Collected

/-- The same attributes are given, the helpers and links say the same, and the same properties are
left out. -/
structure Alike (a b : Collected) : Prop where
  attributes : a.attributes.Perm b.attributes
  attachments : a.attachments.Alike b.attachments
  skipped : a.skipped.Perm b.skipped

/-- What all of them hold. -/
def all (parts : List Collected) : Collected := parts.foldr (· ++ ·) {}

namespace Alike

variable {a a' b b' c : Collected}

theorem refl (a : Collected) : a.Alike a :=
  ⟨.refl _, ⟨.refl _, .refl _⟩, .refl _⟩

theorem symm (h : a.Alike b) : b.Alike a :=
  ⟨h.attributes.symm, ⟨h.attachments.helpers.symm, h.attachments.links.symm⟩, h.skipped.symm⟩

theorem trans (h : a.Alike b) (h' : b.Alike c) : a.Alike c :=
  ⟨h.attributes.trans h'.attributes, h.attachments.trans h'.attachments,
    h.skipped.trans h'.skipped⟩

theorem append (h : a.Alike b) (h' : a'.Alike b') : (a ++ a').Alike (b ++ b') :=
  ⟨h.attributes.append h'.attributes, h.attachments.append h'.attachments,
    h.skipped.append h'.skipped⟩

theorem append_comm (a b : Collected) : (a ++ b).Alike (b ++ a) :=
  ⟨List.perm_append_comm, .append_comm _ _, List.perm_append_comm⟩

/-- Renaming variables changes nothing of what they say. -/
theorem rename (ρ : String → String) (a : Collected) : (a.rename ρ).Alike a :=
  ⟨.refl _, .rename ρ _, .refl _⟩

/-- All of them hold the same in any order. -/
theorem all {parts parts' : List Collected} (h : parts.Perm parts') :
    (all parts).Alike (all parts') := by
  induction h with
  | nil => exact .refl _
  | cons part _ ih => exact (refl part).append ih
  | swap first second rest =>
    rw [Collected.all, Collected.all, List.foldr_cons, List.foldr_cons, List.foldr_cons,
      List.foldr_cons, ← Collected.append_assoc, ← Collected.append_assoc]
    exact (append_comm second first).append (.refl _)
  | trans _ _ ih ih' => exact ih.trans ih'

end Alike

end Collected

/-! ## Drafts -/

/-- The main things are the same thing but for the order of its values: either is an entity, or
either is a relation with the same players. -/
def MainThing.Alike : MainThing → MainThing → Prop
  | .entity e, .entity e' => (Thing.entity e).content = (Thing.entity e').content
  | .relation r players, .relation r' players' =>
    (Thing.relation r).content = (Thing.relation r').content ∧ r.roles = r'.roles ∧
      players = players'
  | _, _ => False

/-- Either draft has a main thing, and both say the same. -/
structure Draft.Alike (d d' : Draft) : Prop where
  main : ∃ main main', d.main = some main ∧ d'.main = some main' ∧ main.Alike main'
  attachments : d.toAttachments.Alike d'.toAttachments

/-- Attributes change only the attributes of an entity. -/
theorem Entity.foldl_addAttributes (attributes : List (String × List String)) (e : Entity) :
    attributes.foldl (fun e a => e.addAttributes a.1 a.2) e =
      { e with attributes := attributes.foldl (fun a x => a.addAll x.1 x.2) e.attributes } := by
  induction attributes generalizing e with
  | nil => rfl
  | cons first rest ih =>
    rw [List.foldl_cons, ih]
    rfl

/-- Attributes change only the attributes of a relation. -/
theorem Relation.foldl_addAttributes (attributes : List (String × List String)) (r : Relation) :
    attributes.foldl (fun r a => r.addAttributes a.1 a.2) r =
      { r with attributes := attributes.foldl (fun a x => a.addAll x.1 x.2) r.attributes } := by
  induction attributes generalizing r with
  | nil => rfl
  | cons first rest ih =>
    rw [List.foldl_cons, ih]
    rfl

namespace MainThing.Alike

variable {attributes attributes' : List (String × List String)}

/-- The order of attributes changes nothing of what an entity says. -/
theorem mainEntity (h : attributes.Perm attributes') (n : Nat) (typeName : String) :
    (Subject.mainEntity n typeName attributes).Alike
      (Subject.mainEntity n typeName attributes') := by
  simp only [Subject.mainEntity, Entity.foldl_addAttributes]
  exact congrArg (Thing.Content.mk false typeName) (Attributes.values_foldl_addAll h _)

theorem mainRelation (h : attributes.Perm attributes') (s : Subject) (n : Nat) (typeName : String)
    (players : List (String × Entity)) :
    (s.mainRelation n typeName players attributes).Alike
      (s.mainRelation n typeName players attributes') := by
  simp only [Subject.mainRelation, Relation.foldl_addAttributes]
  exact ⟨congrArg (Thing.Content.mk true _) (Attributes.values_foldl_addAll h _), rfl, rfl⟩

end MainThing.Alike

/-- Drafts that say the same are put in the same order. -/
theorem Draft.Alike.order {d d' : Draft} (h : d.Alike d') :
    ∃ statements statements', d.order = .ok statements ∧ d'.order = .ok statements' ∧
      statements.Alike statements' := by
  obtain ⟨⟨main, main', hmain, hmain', halike⟩, hattachments⟩ := h
  have hlinks := hattachments.links.nonempty?
  rw [Draft.order_eq, Draft.order_eq, hmain, hmain']
  cases main with
  | entity e =>
    cases main' with
    | relation => exact halike.elim
    | entity e' =>
      refine ⟨_, _, rfl, rfl, .some ⟨?_, ?_⟩, .none, hlinks⟩
      · refine Statement.Alike.append ⟨.refl _, ?_⟩ hattachments.helpers
        exact .of_eq (congrArg (fun content => [content]) halike)
      · exact ⟨_, _, rfl, rfl, halike, fun role => rfl⟩
  | relation r players =>
    cases main' with
    | entity => exact halike.elim
    | relation r' players' =>
      obtain ⟨hcontent, hroles, rfl⟩ := halike
      refine ⟨_, _, rfl, rfl, .none, .some ⟨?_, ?_⟩, hlinks⟩
      · refine Statement.Alike.append ⟨.refl _, ?_⟩ hattachments.helpers
        exact .of_eq (congrArg (fun content => [content]) hcontent)
      -- helpers match nothing, so the players are all that is matched
      · refine ⟨_, _, rfl, rfl, hcontent, fun role => ?_⟩
        have hplayers : (Thing.relation r).players role = (Thing.relation r').players role := by
          rw [Thing.players, Thing.players, Relation.players?, Relation.players?, hroles]
        rw [hplayers]
        rfl

end ThreatGraph
