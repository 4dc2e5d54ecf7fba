import Mathlib.Tactic.SplitIfs
import Mathlib.Tactic.Tauto
import ThreatGraph.Graph.Draft

/-!
# Edits, one at a time

An edit changes an assembly in steps, and hands on whatever it has changed when it is refused. What
an edit comes to can be told without its steps: it brings an assembly of its own (`settled`). If
there is a main thing on both sides, it is refused before it has changed anything; otherwise the
assembly and what is brought are joined, part by part. There is one lemma for each edit that says
what it brings (`Edit.on_addMainEntity` and the others); they follow the edit step by step.

Joining is associative, and a new assembly is its unit. So the edits of a draft, helper by helper
and link by link, come to one assembly, whose statements can be told from the draft
(`Draft.assembly_eq`).
-/

namespace ThreatGraph

/-! ## Statements joined -/

namespace Statement

/-- Nothing changes if nothing is added. -/
theorem append_nothing (s : Statement) : s ++ {} = s := by
  change Statement.mk (s.matched ++ []) (s.inserted ++ []) = s
  rw [List.append_nil, List.append_nil]

/-- What is added to nothing stays as it is. -/
theorem nothing_append (s : Statement) : {} ++ s = s := rfl

/-- Statements can be joined in any grouping. -/
theorem append_assoc (s t u : Statement) : s ++ t ++ u = s ++ (t ++ u) := by
  change Statement.mk (s.matched ++ t.matched ++ u.matched)
    (s.inserted ++ t.inserted ++ u.inserted) = Statement.mk _ _
  rw [List.append_assoc, List.append_assoc]
  rfl

/-- Only one statement is empty. -/
theorem isEmpty_iff {s : Statement} : s.isEmpty = true ↔ s = {} := by
  obtain ⟨matched, inserted⟩ := s
  simp [isEmpty]

/-- Statements that are joined are empty if both are. -/
theorem isEmpty_append (s t : Statement) : (s ++ t).isEmpty = (s.isEmpty && t.isEmpty) := by
  rw [Bool.eq_iff_iff, Bool.and_eq_true, isEmpty_iff, isEmpty_iff, isEmpty_iff]
  obtain ⟨matched, inserted⟩ := s
  obtain ⟨matched', inserted'⟩ := t
  change Statement.mk (matched ++ matched') (inserted ++ inserted') = {} ↔ _
  simp only [Statement.mk.injEq, List.append_eq_nil_iff]
  exact and_and_and_comm

/-- Matching one thing more is joining a statement that matches it. -/
theorem pushMatched_eq (thing : Thing) : pushMatched thing = (· ++ { matched := [thing] }) := by
  funext s
  change _ = Statement.mk (s.matched ++ [thing]) (s.inserted ++ [])
  rw [List.append_nil]
  rfl

/-- Inserting one thing more is joining a statement that inserts it. -/
theorem pushInserted_eq (thing : Thing) : pushInserted thing = (· ++ { inserted := [thing] }) := by
  funext s
  change _ = Statement.mk (s.matched ++ []) (s.inserted ++ [thing])
  rw [List.append_nil]
  rfl

end Statement

namespace Assembly

variable {a b c : Assembly}

/-! ## Joining assemblies -/

/-- There is a main thing on both sides. -/
def Clash (a b : Assembly) : Prop := a.kind ≠ .none ∧ b.kind ≠ .none

instance : Decidable (a.Clash b) := inferInstanceAs (Decidable (_ ∧ _))

/-- What either assembly holds, part by part. -/
def join (a b : Assembly) : Assembly where
  main := a.main ++ b.main
  kind := if b.kind = .none then a.kind else b.kind
  helpers := a.helpers ++ b.helpers
  links := a.links ++ b.links

/-- What an edit that brings `b` comes to: it is refused and nothing was changed, or all of `b` is
added. -/
def settled (a b : Assembly) : Except DraftDefect Unit × Assembly :=
  if a.Clash b then (.error .twoMainThings, a) else (.ok (), a.join b)

theorem settled_of_clash (h : a.Clash b) : a.settled b = (.error .twoMainThings, a) := if_pos h

theorem settled_of_not_clash (h : ¬ a.Clash b) : a.settled b = (.ok (), a.join b) := if_neg h

/-- Assemblies that are joined have no main thing exactly if neither has one. -/
theorem kind_join_eq_none_iff : (a.join b).kind = .none ↔ a.kind = .none ∧ b.kind = .none := by
  rw [join]
  split
  · next h => exact (and_iff_left h).symm
  · next h => exact iff_of_false h fun hboth => h hboth.2

/-- Joining a new assembly changes nothing. -/
theorem join_nothing (a : Assembly) : a.join {} = a := by
  change Assembly.mk (a.main ++ {}) a.kind (a.helpers ++ {}) (a.links ++ {}) = a
  rw [Statement.append_nothing, Statement.append_nothing, Statement.append_nothing]

theorem nothing_join (a : Assembly) : join {} a = a := by
  change Assembly.mk a.main (if a.kind = .none then .none else a.kind) a.helpers a.links = a
  have hkind : (if a.kind = .none then .none else a.kind) = a.kind := by
    split
    · next h => exact h.symm
    · rfl
  rw [hkind]

/-- Assemblies can be joined in any grouping; the tag is that of the only main thing. -/
theorem join_assoc (a b c : Assembly) : (a.join b).join c = a.join (b.join c) := by
  -- of the tags that are set the last one stands, in either grouping
  have hkind : ((a.join b).join c).kind = (a.join (b.join c)).kind := by
    simp only [join]
    split_ifs <;> simp_all
  calc (a.join b).join c
      = ⟨a.main ++ b.main ++ c.main, ((a.join b).join c).kind,
          a.helpers ++ b.helpers ++ c.helpers, a.links ++ b.links ++ c.links⟩ := rfl
    _ = a.join (b.join c) := by
      rw [hkind, Statement.append_assoc, Statement.append_assoc, Statement.append_assoc]
      rfl

/-- What has no main thing goes in whatever is there. -/
theorem settled_of_kind_eq_none (h : b.kind = .none) : a.settled b = (.ok (), a.join b) :=
  settled_of_not_clash fun hclash => hclash.2 h

/-- A new assembly takes everything as it is. -/
theorem nothing_settled (a : Assembly) : settled {} a = (.ok (), a) := by
  rw [settled_of_not_clash fun hclash => hclash.1 rfl, nothing_join]

/-- Adding to the main statement is joining it. -/
theorem mapMain_append (a : Assembly) (s : Statement) :
    a.mapMain (· ++ s) = a.join { main := s } := by
  rw [join, Statement.append_nothing, Statement.append_nothing]
  rfl

/-- Adding to the helpers is joining them. -/
theorem mapHelpers_append (a : Assembly) (s : Statement) :
    a.mapHelpers (· ++ s) = a.join { helpers := s } := by
  rw [join, Statement.append_nothing, Statement.append_nothing]
  rfl

/-- Adding to the links is joining them. -/
theorem mapLinks_append (a : Assembly) (s : Statement) :
    a.mapLinks (· ++ s) = a.join { links := s } := by
  rw [join, Statement.append_nothing, Statement.append_nothing]
  rfl

/-- Setting the tag is joining it: the one that comes last counts. -/
theorem tag_eq (a : Assembly) {kind : MainKind} (h : kind ≠ .none) :
    a.tag kind = a.join { kind } := by
  rw [join, if_neg h, Statement.append_nothing, Statement.append_nothing, Statement.append_nothing]
  rfl

/-- No more than one of three assemblies has a main thing, however they are joined. -/
theorem clash_join_iff :
    a.Clash b ∨ (a.join b).Clash c ↔ b.Clash c ∨ a.Clash (b.join c) := by
  simp only [Clash, Ne, kind_join_eq_none_iff]
  tauto

end Assembly

/-! ## Single edits -/

namespace Edit

variable {a : Assembly}

/-- An edit goes on from what the one before has left; after a refusal that is what is left. -/
theorem on_bind (edit next : Edit Unit) (a : Assembly) :
    on (edit >>= fun _ => next) a =
      match edit.on a with
      | (.ok (), b) => next.on b
      | (.error defect, b) => (.error defect, b) := by
  change Id.run (StateT.run (ExceptT.bindCont (m := StateM Assembly) (fun _ => next) (edit.on a).1)
    (edit.on a).2) = _
  obtain ⟨result, b⟩ := edit.on a
  cases result with
  | error defect => rfl
  | ok _ => rfl

theorem on_bind_ok {edit next : Edit Unit} {b : Assembly} (h : edit.on a = (.ok (), b)) :
    on (edit >>= fun _ => next) a = next.on b := by
  rw [on_bind, h]

theorem on_modify (change : Assembly → Assembly) : on (modify change) a = (.ok (), change a) := rfl

/-- A change is what the next edit starts from. -/
theorem on_modify_bind (change : Assembly → Assembly) (next : Edit Unit) :
    on (modify change >>= fun _ => next) a = next.on (change a) := rfl

/-- Asking for a main thing changes nothing. -/
theorem on_requireNoMain (a : Assembly) :
    requireNoMain.on a = if a.kind = .none then (.ok (), a) else (.error .twoMainThings, a) := by
  obtain ⟨main, kind, helpers, links⟩ := a
  cases kind <;> rfl

/-- An edit that would bring a main thing, and asks for one first, is refused in time. -/
theorem on_requireNoMain_bind {next : Edit Unit} {b : Assembly} (hb : b.kind ≠ .none)
    (hnext : next.on a = (.ok (), a.join b)) :
    on (requireNoMain >>= fun _ => next) a = a.settled b := by
  rw [on_bind, on_requireNoMain, Assembly.settled]
  by_cases hkind : a.kind = .none
  · rw [if_pos hkind, if_neg fun h => h.1 hkind]
    exact hnext
  · rw [if_neg hkind, if_pos ⟨hkind, hb⟩]

/-- Edits that are never refused change an assembly one after the other. -/
theorem on_each_foldl {α : Type} {edit : α → Edit Unit} {step : Assembly → α → Assembly}
    (hedit : ∀ x a, (edit x).on a = (.ok (), step a x)) (xs : List α) (a : Assembly) :
    (each edit xs).on a = (.ok (), xs.foldl step a) := by
  -- the list is run through from the edits that come before what is left of it
  have hfrom (before : Edit Unit) (b : Assembly) (hbefore : before.on a = (.ok (), b)) :
      on (xs.foldl (fun edits x => do edits; edit x) before) a = (.ok (), xs.foldl step b) := by
    induction xs generalizing before b with
    | nil => exact hbefore
    | cons x rest ih => exact ih _ _ ((on_bind_ok hbefore).trans (hedit x b))
  exact hfrom (pure ()) a rfl

/-- They bring together what each of them brings. -/
theorem on_each {α : Type} {edit : α → Edit Unit} {one : α → Assembly}
    (hedit : ∀ x a, (edit x).on a = (.ok (), a.join (one x))) (bring : List α → Assembly)
    (hnil : bring [] = {}) (hcons : ∀ x rest, bring (x :: rest) = (one x).join (bring rest))
    (xs : List α) (a : Assembly) : (each edit xs).on a = (.ok (), a.join (bring xs)) := by
  have hjoin : xs.foldl (fun a x => a.join (one x)) a = a.join (bring xs) := by
    induction xs generalizing a with
    | nil => rw [hnil, Assembly.join_nothing, List.foldl_nil]
    | cons x rest ih => rw [hcons, ← Assembly.join_assoc, List.foldl_cons, ih]
  rw [on_each_foldl hedit, hjoin]

/-- Players are matched one after the other. -/
theorem on_each_pushMatched (players : List Entity) (a : Assembly) :
    (each (fun player => modify (Assembly.mapMain (Statement.pushMatched (.entity player))))
        players).on a =
      (.ok (), a.join { main := { matched := players.map .entity } }) := by
  have hone (player : Entity) (a : Assembly) :
      on (modify (Assembly.mapMain (Statement.pushMatched (.entity player)))) a =
        (.ok (), a.join { main := { matched := [.entity player] } }) := by
    rw [on_modify, Statement.pushMatched_eq, Assembly.mapMain_append]
  exact on_each hone (fun players => { main := { matched := players.map .entity } }) rfl
    (fun _ _ => rfl) players a

/-- The main thing is added unless there is one. -/
theorem on_addMainEntity (entity : Entity) (a : Assembly) :
    (addMainEntity entity).on a =
      a.settled { main := { inserted := [.entity entity] }, kind := .entity } := by
  refine on_requireNoMain_bind nofun ?_
  rw [on_modify_bind, on_modify, Statement.pushInserted_eq, Assembly.mapMain_append,
    Assembly.tag_eq _ (by decide), Assembly.join_assoc]
  rfl

/-- What was matched for the players before is part of what the relation brings. -/
theorem on_addMainRelation (relation : Relation) (players : List Entity) (a : Assembly) :
    (addMainRelation relation players).on a =
      a.settled
        { main := { matched := players.map .entity, inserted := [.relation relation] },
          kind := .relation } := by
  have hbrought :
      Assembly.join { main := { matched := players.map .entity } }
        { main := { inserted := [.relation relation] }, kind := .relation } =
      { main := { matched := players.map .entity, inserted := [.relation relation] },
        kind := .relation } := by
    change Assembly.mk ⟨players.map .entity ++ [], [.relation relation]⟩ .relation {} {} = _
    rw [List.append_nil]
  refine on_requireNoMain_bind nofun ?_
  rw [on_bind_ok (on_each_pushMatched players a), on_modify_bind, on_modify,
    Statement.pushInserted_eq, Assembly.mapMain_append, Assembly.tag_eq _ (by decide),
    Assembly.join_assoc, Assembly.join_assoc, ← hbrought]
  rfl

/-- A helper goes in whatever is there. -/
theorem on_addHelper (entity : Entity) (relation : Relation) (a : Assembly) :
    (addHelper entity relation).on a =
      (.ok (), a.join { helpers := { inserted := [.entity entity, .relation relation] } }) := by
  rw [addHelper, on_modify_bind, on_modify, Statement.pushInserted_eq, Statement.pushInserted_eq,
    Assembly.mapHelpers_append, Assembly.mapHelpers_append, Assembly.join_assoc]
  rfl

/-- A link goes in whatever is there, like a helper. -/
theorem on_addLink (owner target : Entity) (relation : Relation) (a : Assembly) :
    (addLink owner target relation).on a =
      (.ok (),
        a.join
          { links :=
              { matched := [.entity owner, .entity target],
                inserted := [.relation relation] } }) := by
  rw [addLink, on_modify_bind, on_modify_bind, on_modify, Statement.pushMatched_eq,
    Statement.pushMatched_eq, Statement.pushInserted_eq, Assembly.mapLinks_append,
    Assembly.mapLinks_append, Assembly.mapLinks_append, Assembly.join_assoc, Assembly.join_assoc]
  rfl

/-- The tag is set before the statements are joined, but not before a clash is refused. -/
theorem on_extend (other a : Assembly) : (extend other).on a = a.settled other := by
  -- the tag of the assembly is looked at only if there is a main thing on the other side
  by_cases hother : other.kind = .none
  · rw [Assembly.settled_of_kind_eq_none hother, Assembly.join, if_pos hother, extend,
      if_neg (not_not_intro hother)]
    rfl
  · rw [extend, if_pos hother]
    refine on_requireNoMain_bind hother ?_
    rw [Assembly.join, if_neg hother]
    rfl

end Edit

/-! ## The edits of a draft -/

namespace Attachments

/-- Helpers and links are added, each to its statement. -/
theorem on_edit (a : Attachments) (s : Assembly) :
    a.edit.on s =
      (.ok (), s.join { helpers := a.helperStatement, links := a.linkStatement }) := by
  have hhelpers := Edit.on_each (fun (h : Helper) s => Edit.on_addHelper h.entity h.relation s)
    (fun helpers => { helpers := ({ helpers } : Attachments).helperStatement }) rfl
    fun _ _ => rfl
  have hlinks := Edit.on_each
    (fun (l : Link) s => Edit.on_addLink l.owner l.target l.relation s)
    (fun links => { links := ({ links } : Attachments).linkStatement }) rfl
    fun _ _ => rfl
  have hboth : Assembly.join { helpers := a.helperStatement } { links := a.linkStatement } =
      { helpers := a.helperStatement, links := a.linkStatement } := by
    change Assembly.mk {} .none (a.helperStatement ++ {}) a.linkStatement = _
    rw [Statement.append_nothing]
  rw [edit, Edit.on_bind_ok (hhelpers a.helpers s), hlinks a.links, Assembly.join_assoc]
  exact congrArg (fun b => (Except.ok (), s.join b)) hboth

/-- An assembly of helpers and links has two statements. -/
theorem assembly_eq (a : Attachments) :
    a.assembly = { helpers := a.helperStatement, links := a.linkStatement } := by
  rw [assembly, on_edit, Assembly.nothing_join]

end Attachments

/-- A new assembly takes any main thing, and is tagged with its kind. -/
theorem MainThing.on_edit (main : MainThing) :
    main.edit.on {} =
      (.ok (), { main := main.statement, kind := Draft.kind { main := some main } }) := by
  cases main with
  | entity e =>
    rw [edit, Edit.on_addMainEntity, Assembly.nothing_settled]
    rfl
  | relation r players =>
    rw [edit, Edit.on_addMainRelation, Assembly.nothing_settled]
    rfl

namespace Draft

/-- The assembly of a draft, part by part. -/
theorem assembly_eq (d : Draft) :
    d.assembly = ⟨d.mainStatement, d.kind, d.helperStatement, d.linkStatement⟩ := by
  obtain ⟨a, main⟩ := d
  -- what is attached has no main thing of its own, and so is never refused
  have hattached (b : Assembly) : (Edit.extend a.assembly).on b =
      (.ok (), b.join { helpers := a.helperStatement, links := a.linkStatement }) := by
    rw [Edit.on_extend, a.assembly_eq, Assembly.settled_of_kind_eq_none rfl]
  rw [assembly, edit]
  cases main with
  | none => exact congrArg Prod.snd ((hattached {}).trans (congrArg _ (Assembly.nothing_join _)))
  | some main =>
    have hrun := (Edit.on_bind_ok main.on_edit).trans (hattached _)
    rw [Assembly.join, Statement.append_nothing] at hrun
    exact congrArg Prod.snd hrun

/-- A draft without a main thing is empty if its helpers and its links make no statement. -/
theorem isEmpty_attachments (a : Attachments) :
    (Draft.mk a none).isEmpty = (a.helperStatement.isEmpty && a.linkStatement.isEmpty) := by
  obtain ⟨helpers, links⟩ := a
  cases helpers <;> cases links <;> rfl

/-- The order of a draft, told apart by its main thing. -/
theorem order_eq (d : Draft) :
    d.order =
      match d.main with
      | some (.entity e) =>
        .ok { entities := some ((MainThing.entity e).statement ++ d.helperStatement),
              embedded := d.linkStatement.nonempty? }
      | some (.relation r players) =>
        .ok { relations := some ((MainThing.relation r players).statement ++ d.helperStatement),
              embedded := d.linkStatement.nonempty? }
      | none => if d.isEmpty then .ok {} else .error .noMainThing := by
  rw [order, assembly_eq]
  obtain ⟨⟨helpers, links⟩, main⟩ := d
  rcases main with _ | (e | ⟨r, players⟩)
  · cases helpers <;> cases links <;> rfl
  · rfl
  · cases players <;> rfl

end Draft

end ThreatGraph
