import ThreatGraph.Proofs.Likeness

/-!
# Assemblies, call by call

An assembly is built by calls: each makes something its main thing, adds a helper or a link, or adds
what other calls have built. What a call does is said by its edit, which changes the tag and the
three statements one after the other, and which hands on whatever it has changed when it is refused.
So nothing here holds by the shape of an assembly; it is followed through the edits.

A single call is refused and has changed nothing, or what it brings is joined (`Call.on_edit`).
Joining keeps the tag in accord with the main statement (`Tagged.join`), and hence every call does,
and so do all calls, those that others are built by included (`Invariant.built`). Each statement of
what was built is what the calls that went through have brought to it, in their order
(`part_builtFrom`).

Assemblies form a partial monoid (`extended_assoc`), and ordering files what they hold: the main
statement, with the helpers behind it, under what the main thing is, and the links in a statement of
their own (`routed_of_order`). `built_lawful` says all this of whatever calls build, and that the
drafts that conversions make stand for these assemblies, and change as these do (`Draft.Refined`).
-/

namespace ThreatGraph

/-! ## Statements in places -/

/-- The place holds the statement, and is left free if that is empty. -/
def Holds (place : Option Statement) (s : Statement) : Prop :=
  place.getD {} = s ∧ (place = none ↔ s.isEmpty = true)

/-- A statement is left out exactly if it is empty. -/
theorem Statement.holds_nonempty? (s : Statement) : Holds s.nonempty? s := by
  rw [Holds, nonempty?]
  by_cases h : s.isEmpty = true
  · rw [if_pos h]
    exact ⟨(isEmpty_iff.mp h).symm, iff_of_true rfl h⟩
  · rw [if_neg h]
    exact ⟨rfl, iff_of_false (Option.some_ne_none _) h⟩

/-- A free place holds nothing. -/
theorem Holds.nothing : Holds none {} := ⟨rfl, iff_of_true rfl rfl⟩

namespace Assembly

/-! ## Calls -/

/-- A call on an assembly. -/
inductive Call where
  /-- makes an entity the main thing -/
  | mainEntity (entity : Entity)
  /-- makes a relation with its players the main thing -/
  | mainRelation (relation : Relation) (players : List Entity)
  /-- adds a helper and its tie -/
  | helper (entity : Entity) (relation : Relation)
  /-- adds a link -/
  | link (owner target : Entity) (relation : Relation)
  /-- adds what other calls build -/
  | extend (calls : List Call)

mutual

/-- The edit that a call asks for. -/
def Call.edit : Call → Edit Unit
  | .mainEntity entity => Edit.addMainEntity entity
  | .mainRelation relation players => Edit.addMainRelation relation players
  | .helper entity relation => Edit.addHelper entity relation
  | .link owner target relation => Edit.addLink owner target relation
  | .extend calls => Edit.extend (builtFrom calls {})

/-- The assembly after calls, one after the other. Each starts from what the one before has left,
whether that was refused or not. -/
def builtFrom : List Call → Assembly → Assembly
  | [], a => a
  | call :: rest, a => builtFrom rest (call.edit.on a).2

end

/-- What calls build of a new assembly. -/
def built (calls : List Call) : Assembly := builtFrom calls {}

/-- What a call brings. -/
def Call.brought : Call → Assembly
  | .mainEntity entity => { main := { inserted := [.entity entity] }, kind := .entity }
  | .mainRelation relation players =>
    { main := { matched := players.map .entity, inserted := [.relation relation] },
      kind := .relation }
  | .helper entity relation =>
    { helpers := { inserted := [.entity entity, .relation relation] } }
  | .link owner target relation =>
    { links := { matched := [.entity owner, .entity target], inserted := [.relation relation] } }
  | .extend calls => built calls

/-- **One step.** A call is refused, and then nothing was changed, or it adds what it brings. -/
theorem Call.on_edit (call : Call) (a : Assembly) : call.edit.on a = a.settled call.brought := by
  cases call with
  | mainEntity entity =>
    rw [edit]
    exact Edit.on_addMainEntity entity a
  | mainRelation relation players =>
    rw [edit]
    exact Edit.on_addMainRelation relation players a
  | helper entity relation =>
    rw [edit]
    exact (Edit.on_addHelper entity relation a).trans (settled_of_kind_eq_none rfl).symm
  | link owner target relation =>
    rw [edit]
    exact (Edit.on_addLink owner target relation a).trans (settled_of_kind_eq_none rfl).symm
  | extend calls =>
    rw [edit]
    exact Edit.on_extend (built calls) a

variable {a b c : Assembly}

/-- What a call leaves, where it is refused and where it goes through. -/
theorem settled_snd (a b : Assembly) : (a.settled b).2 = if a.Clash b then a else a.join b := by
  rw [settled]
  split
  · rfl
  · rfl

/-- Where there is a clash there is a refusal, and nowhere else. -/
theorem exists_settled_error_iff :
    (∃ defect, (a.settled b).1 = .error defect) ↔ a.Clash b := by
  by_cases h : a.Clash b
  · rw [settled_of_clash h]
    exact iff_of_true ⟨_, rfl⟩ h
  · rw [settled_of_not_clash h]
    exact iff_of_false nofun h

/-! ## Invariants -/

/-- A property of new assemblies and of what single calls bring that joining keeps. -/
structure Invariant (P : Assembly → Prop) : Prop where
  /-- a new assembly has it -/
  new : P {}
  /-- so has an entity as a main thing -/
  mainEntity entity : P (Call.mainEntity entity).brought
  /-- so has a relation as a main thing -/
  mainRelation relation players : P (Call.mainRelation relation players).brought
  /-- so has a helper -/
  helper entity relation : P (Call.helper entity relation).brought
  /-- so has a link -/
  link owner target relation : P (Call.link owner target relation).brought
  /-- where there is no clash, so have assemblies together -/
  join {a b : Assembly} : P a → P b → ¬ a.Clash b → P (a.join b)

namespace Invariant

variable {P : Assembly → Prop}

/-- A call keeps what it brings itself. -/
theorem step (h : Invariant P) {call : Call} (hcall : P call.brought) (ha : P a) :
    P (call.edit.on a).2 := by
  rw [call.on_edit, settled_snd]
  split
  · exact ha
  · next hclash => exact h.join ha hcall hclash

mutual

/-- Whatever a call brings has the property: what other calls build has it by induction. -/
theorem brought (h : Invariant P) (call : Call) : P call.brought := by
  cases call with
  | mainEntity entity => exact h.mainEntity entity
  | mainRelation relation players => exact h.mainRelation relation players
  | helper entity relation => exact h.helper entity relation
  | link owner target relation => exact h.link owner target relation
  | extend calls => exact h.builtFrom calls h.new

/-- Calls that start from an assembly with the property end in one. -/
theorem builtFrom (h : Invariant P) (calls : List Call) {a : Assembly} (ha : P a) :
    P (builtFrom calls a) := by
  cases calls with
  | nil => exact ha
  | cons call rest => exact h.builtFrom rest (h.step (h.brought call) ha)

end

/-- **All steps.** Whatever calls build has the property. -/
theorem built (h : Invariant P) (calls : List Call) : P (built calls) := h.builtFrom calls h.new

end Invariant

/-! ## Several calls -/

theorem builtFrom_append (calls more : List Call) (a : Assembly) :
    builtFrom (calls ++ more) a = builtFrom more (builtFrom calls a) := by
  induction calls generalizing a with
  | nil => rfl
  | cons call rest ih => exact ih _

/-- A single call builds what it brings. -/
theorem builtFrom_single (call : Call) : builtFrom [call] {} = call.brought := by
  rw [builtFrom, builtFrom, call.on_edit, nothing_settled]

/-- Calls whose edits are never refused are those edits, one after the other. -/
theorem on_each_eq_builtFrom {α : Type} (call : α → Call) {edit : α → Edit Unit}
    (hedit : ∀ x, (call x).edit = edit x) (hkind : ∀ x, (call x).brought.kind = .none)
    (xs : List α) (a : Assembly) :
    (Edit.each edit xs).on a = (.ok (), builtFrom (xs.map call) a) := by
  have hstep x a : (edit x).on a = (.ok (), ((call x).edit.on a).2) := by
    rw [← hedit, (call x).on_edit, settled_of_kind_eq_none (hkind x)]
  rw [Edit.on_each_foldl hstep]
  induction xs generalizing a with
  | nil => rfl
  | cons x rest ih => exact ih _

/-! ## The tag and the main statement -/

/-- The tag tells what the main statement holds. -/
structure Tagged (a : Assembly) : Prop where
  /-- an entity, and nothing that is matched -/
  entity : a.kind = .entity ↔ ∃ e, a.main = { inserted := [.entity e] }
  /-- a relation, whatever is matched for it -/
  relation : a.kind = .relation ↔ ∃ r, a.main.inserted = [.relation r]
  /-- nothing at all -/
  none : a.kind = .none ↔ a.main.isEmpty = true

namespace Tagged

/-- Only the main statement and the tag matter. -/
theorem of_eq (ha : a.Tagged) (hmain : b.main = a.main) (hkind : b.kind = a.kind) : b.Tagged where
  entity := by rw [hmain, hkind]; exact ha.entity
  relation := by rw [hmain, hkind]; exact ha.relation
  none := by rw [hmain, hkind]; exact ha.none

theorem nothing : ({} : Assembly).Tagged where
  entity := iff_of_false nofun fun ⟨_, he⟩ => nomatch congrArg Statement.inserted he
  relation := iff_of_false nofun fun ⟨_, hr⟩ => nomatch hr
  none := iff_of_true rfl rfl

/-- An entity as the main thing is tagged as one. -/
theorem mainEntity (entity : Entity) : (Call.mainEntity entity).brought.Tagged where
  entity := iff_of_true rfl ⟨entity, rfl⟩
  relation := iff_of_false nofun fun ⟨_, hr⟩ => nomatch (List.cons.inj hr).1
  none := iff_of_false nofun nofun

/-- A relation as the main thing is tagged as one, with whatever is matched for its players. -/
theorem mainRelation (relation : Relation) (players : List Entity) :
    (Call.mainRelation relation players).brought.Tagged where
  entity := iff_of_false nofun fun ⟨_, he⟩ =>
    nomatch (List.cons.inj (congrArg Statement.inserted he)).1
  relation := iff_of_true rfl ⟨relation, rfl⟩
  none := iff_of_false nofun fun hempty =>
    nomatch congrArg Statement.inserted (Statement.isEmpty_iff.mp hempty)

/-- Where there is no clash, one side has no main thing, so that main statement and tag of both
together are those of the other. -/
theorem join (ha : a.Tagged) (hb : b.Tagged) (h : ¬ a.Clash b) : (a.join b).Tagged := by
  by_cases hkind : b.kind = .none
  · have hmain : b.main = {} := Statement.isEmpty_iff.mp (hb.none.mp hkind)
    refine ha.of_eq ?_ (if_pos hkind)
    rw [Assembly.join, hmain, Statement.append_nothing]
  · have hnone : a.kind = .none := by
      by_contra hsome
      exact h ⟨hsome, hkind⟩
    have hmain : a.main = {} := Statement.isEmpty_iff.mp (ha.none.mp hnone)
    refine hb.of_eq ?_ (if_neg hkind)
    rw [Assembly.join, hmain, Statement.nothing_append]

/-- Helpers and links are added without touching the main statement and the tag. -/
theorem invariant : Invariant Tagged where
  new := nothing
  mainEntity := mainEntity
  mainRelation := mainRelation
  helper _ _ := nothing.of_eq rfl rfl
  link _ _ _ := nothing.of_eq rfl rfl
  join := join

end Tagged

/-- There is a thing that stands for the object. -/
def HasMain (a : Assembly) : Prop := ∃ thing, a.main.inserted = [thing]

/-- Where the tag tells what is there, asking for it is asking for a main thing. -/
theorem Tagged.hasMain_iff (h : a.Tagged) : a.HasMain ↔ a.kind ≠ .none := by
  constructor
  · rintro ⟨thing, hthing⟩ hkind
    rw [Statement.isEmpty_iff.mp (h.none.mp hkind)] at hthing
    cases hthing
  · intro hkind
    cases htag : a.kind with
    | none => exact absurd htag hkind
    | entity =>
      obtain ⟨e, he⟩ := h.entity.mp htag
      exact ⟨.entity e, congrArg Statement.inserted he⟩
    | relation =>
      obtain ⟨r, hr⟩ := h.relation.mp htag
      exact ⟨.relation r, hr⟩

/-! ## What calls have brought -/

/-- The calls that are not refused, one after the other. -/
def accepted : List Call → Assembly → List Call
  | [], _ => []
  | call :: rest, a =>
    if (call.edit.on a).1.isOk then call :: accepted rest (call.edit.on a).2
    else accepted rest (call.edit.on a).2

/-- What calls bring to a part, in their order. -/
def broughtTo (part : Assembly → Statement) (calls : List Call) : Statement where
  matched := calls.flatMap fun call => (part call.brought).matched
  inserted := calls.flatMap fun call => (part call.brought).inserted

/-- Calls put what they bring to a part behind what stands there, unless they are refused. -/
theorem part_builtFrom {part : Assembly → Statement}
    (hjoin : ∀ a b, part (a.join b) = part a ++ part b) (calls : List Call) (a : Assembly) :
    part (builtFrom calls a) = part a ++ broughtTo part (accepted calls a) := by
  induction calls generalizing a with
  | nil => exact (Statement.append_nothing _).symm
  | cons call rest ih =>
    rw [builtFrom, accepted, call.on_edit, ih]
    by_cases h : a.Clash call.brought
    · rw [settled_of_clash h]
      rfl
    · rw [settled_of_not_clash h, hjoin, Statement.append_assoc]
      rfl

/-- The statements are made of what calls have brought. -/
structure MadeOf (a : Assembly) (calls : List Call) : Prop where
  /-- the main statement -/
  main : a.main = broughtTo main calls
  /-- the statement of the helpers -/
  helpers : a.helpers = broughtTo helpers calls
  /-- the statement of the links -/
  links : a.links = broughtTo links calls

/-- Nothing is there at first, so that what calls have brought is all there is. -/
theorem built_madeOf (calls : List Call) : (built calls).MadeOf (accepted calls {}) where
  main := part_builtFrom (fun _ _ => rfl) calls {}
  helpers := part_builtFrom (fun _ _ => rfl) calls {}
  links := part_builtFrom (fun _ _ => rfl) calls {}

/-! ## Extending one assembly by another -/

/-- The assembly that is extended by another, unless that is refused. -/
def extended (a b : Assembly) : Except DraftDefect Assembly :=
  ((Edit.extend b).on a).1.map fun _ => ((Edit.extend b).on a).2

/-- Extending is joining, unless there is a clash. -/
theorem extended_eq (a b : Assembly) :
    a.extended b = if a.Clash b then .error .twoMainThings else .ok (a.join b) := by
  rw [extended, Edit.on_extend, settled]
  split
  · rfl
  · rfl

theorem extended_bind {α : Type} (a b : Assembly) (next : Assembly → Except DraftDefect α) :
    a.extended b >>= next = if a.Clash b then .error .twoMainThings else next (a.join b) := by
  rw [extended_eq]
  split
  · rfl
  · rfl

/-- Three assemblies come to the same, or are refused, whichever two of them are joined first. -/
theorem extended_assoc (a b c : Assembly) :
    (a.extended b >>= fun ab => ab.extended c) = b.extended c >>= fun bc => a.extended bc := by
  rw [extended_bind, extended_bind, extended_eq, extended_eq, join_assoc, ← ite_or, ← ite_or]
  simp only [clash_join_iff]

/-- A new assembly adds nothing. -/
theorem extended_nothing (a : Assembly) : a.extended {} = .ok a := by
  rw [extended_eq, if_neg fun h => h.2 rfl, join_nothing]

/-- A new assembly takes another one as it is. -/
theorem nothing_extended (a : Assembly) : extended {} a = .ok a := by
  rw [extended_eq, if_neg fun h => h.1 rfl, nothing_join]

/-! ## Ordering -/

/-- The statements that are run are those of the assembly, each in its place. -/
structure Routed (a : Assembly) (s : OrderedStatements) : Prop where
  /-- entities are the main thing and its helpers if that is an entity -/
  entities : Holds s.entities (if a.kind = .entity then a.main ++ a.helpers else {})
  /-- relations are the main thing and its helpers if that is a relation -/
  relations : Holds s.relations (if a.kind = .relation then a.main ++ a.helpers else {})
  /-- links have a place of their own -/
  embedded : Holds s.embedded a.links
  /-- what is matched is matched once -/
  matched : s.toList.flatMap Statement.matched =
    a.main.matched ++ a.helpers.matched ++ a.links.matched
  /-- what is inserted is inserted once -/
  inserted : s.toList.flatMap Statement.inserted =
    a.main.inserted ++ a.helpers.inserted ++ a.links.inserted
  /-- the main thing is inserted first -/
  first thing : a.main.inserted = [thing] →
    (s.toList.flatMap Statement.inserted).head? = some thing

/-- The order of an assembly, told apart by its tag. -/
theorem order_eq (a : Assembly) :
    a.order =
      match a.kind with
      | .entity =>
        .ok { entities := (a.main ++ a.helpers).nonempty?, embedded := a.links.nonempty? }
      | .relation =>
        .ok { relations := (a.main ++ a.helpers).nonempty?, embedded := a.links.nonempty? }
      | .none =>
        if a.isEmpty then .ok { embedded := a.links.nonempty? } else .error .noMainThing := by
  obtain ⟨main, kind, helpers, links⟩ := a
  cases kind with
  | none =>
    simp only [order, isEmpty, ← Statement.isEmpty_append]
    split <;> rfl
  | entity => rfl
  | relation => rfl

/-- An assembly can be put in order unless there are helpers or links without a main thing. -/
theorem exists_order_iff : (∃ s, a.order = .ok s) ↔ a.kind ≠ .none ∨ a.isEmpty = true := by
  rw [order_eq]
  cases hkind : a.kind with
  | none =>
    by_cases hempty : a.isEmpty = true
    · exact iff_of_true ⟨_, if_pos hempty⟩ (.inr hempty)
    · refine iff_of_false ?_ (by simpa using hempty)
      rintro ⟨s, hs⟩
      rw [if_neg hempty] at hs
      cases hs
  | entity => exact iff_of_true ⟨_, rfl⟩ (.inl nofun)
  | relation => exact iff_of_true ⟨_, rfl⟩ (.inl nofun)

/-- What an assembly is put into, by its tag. -/
theorem order_ok {s : OrderedStatements} (h : a.order = .ok s) :
    (a.kind = .entity ∧
      s = { entities := (a.main ++ a.helpers).nonempty?, embedded := a.links.nonempty? }) ∨
    (a.kind = .relation ∧
      s = { relations := (a.main ++ a.helpers).nonempty?, embedded := a.links.nonempty? }) ∨
    (a.kind = .none ∧ a.main ++ a.helpers = {} ∧ s = { embedded := a.links.nonempty? }) := by
  rw [order_eq] at h
  cases hkind : a.kind with
  | none =>
    simp only [hkind] at h
    split at h
    · next hempty =>
      have hprimary : (a.main ++ a.helpers).isEmpty = true := by
        rw [Statement.isEmpty_append]
        exact (Bool.and_eq_true_iff.mp hempty).1
      exact .inr (.inr ⟨rfl, Statement.isEmpty_iff.mp hprimary, (Except.ok.inj h).symm⟩)
    · cases h
  | entity =>
    simp only [hkind] at h
    exact .inl ⟨rfl, (Except.ok.inj h).symm⟩
  | relation =>
    simp only [hkind] at h
    exact .inr (.inl ⟨rfl, (Except.ok.inj h).symm⟩)

/-- Joining the main statement with that of the helpers, and leaving out empty statements, neither
loses nor repeats a thing. -/
theorem flatMap_order {f : Statement → List Thing} (hnothing : f {} = [])
    (happend : ∀ s t, f (s ++ t) = f s ++ f t) {s : OrderedStatements} (h : a.order = .ok s) :
    s.toList.flatMap f = f a.main ++ f a.helpers ++ f a.links := by
  have hnonempty (t : Statement) : t.nonempty?.toList.flatMap f = f t :=
    Statement.flatMap_nonempty? hnothing t
  rw [OrderedStatements.toList, List.flatMap_append, List.flatMap_append, ← happend]
  rcases order_ok h with ⟨-, rfl⟩ | ⟨-, rfl⟩ | ⟨-, hprimary, rfl⟩
  · rw [hnonempty, hnonempty]
    exact congrArg (· ++ f a.links) (List.append_nil _)
  · rw [hnonempty, hnonempty]
    rfl
  · rw [hprimary, hnothing, hnonempty]
    rfl

/-- What is put in order is in its place, nothing is lost and nothing is there twice. -/
theorem routed_of_order {s : OrderedStatements} (h : a.order = .ok s) : a.Routed s := by
  have hmatched := flatMap_order (f := Statement.matched) rfl (fun _ _ => rfl) h
  have hinserted := flatMap_order (f := Statement.inserted) rfl (fun _ _ => rfl) h
  have hfirst thing (hmain : a.main.inserted = [thing]) :
      (s.toList.flatMap Statement.inserted).head? = some thing := by
    rw [hinserted, hmain]
    rfl
  have hlinks := a.links.holds_nonempty?
  have hprimary := (a.main ++ a.helpers).holds_nonempty?
  -- at most one of the first two statements is there, and the kind says which
  rcases order_ok h with ⟨hkind, rfl⟩ | ⟨hkind, rfl⟩ | ⟨hkind, -, rfl⟩
  · refine ⟨?_, ?_, hlinks, hmatched, hinserted, hfirst⟩
    · rwa [if_pos hkind]
    · rw [if_neg (by rw [hkind]; nofun)]
      exact .nothing
  · refine ⟨?_, ?_, hlinks, hmatched, hinserted, hfirst⟩
    · rw [if_neg (by rw [hkind]; nofun)]
      exact .nothing
    · rwa [if_pos hkind]
  · refine ⟨?_, ?_, hlinks, hmatched, hinserted, hfirst⟩
    · rw [if_neg (by rw [hkind]; nofun)]
      exact .nothing
    · rw [if_neg (by rw [hkind]; nofun)]
      exact .nothing

/-! ## The laws -/

/-- What holds of an assembly whatever calls have built it. -/
structure Lawful (a : Assembly) : Prop where
  /-- its tag tells what its main statement holds -/
  tagged : a.Tagged
  /-- a call that is refused leaves it exactly as it was -/
  unchanged (call : Call) defect : (call.edit.on a).1 = .error defect → (call.edit.on a).2 = a
  /-- it takes an entity as its main thing unless it has a main thing -/
  addMainEntity entity :
    (∃ defect, ((Edit.addMainEntity entity).on a).1 = .error defect) ↔ a.HasMain
  /-- it takes a relation as its main thing unless it has a main thing -/
  addMainRelation relation players :
    (∃ defect, ((Edit.addMainRelation relation players).on a).1 = .error defect) ↔ a.HasMain
  /-- it takes any helper -/
  addHelper entity relation : ((Edit.addHelper entity relation).on a).1 = .ok ()
  /-- it takes any link -/
  addLink owner target relation : ((Edit.addLink owner target relation).on a).1 = .ok ()
  /-- it takes what calls build unless both have a main thing -/
  extend calls :
    (∃ defect, ((Edit.extend (built calls)).on a).1 = .error defect) ↔
      a.HasMain ∧ (built calls).HasMain
  /-- a new assembly takes it as it is -/
  nothing_extended : extended {} a = .ok a
  /-- a new assembly adds nothing to it -/
  extended_nothing : a.extended {} = .ok a
  /-- it makes no difference which two of three assemblies are joined first -/
  extended_assoc b c :
    (a.extended b >>= fun ab => ab.extended c) = b.extended c >>= fun bc => a.extended bc
  /-- it can be put in order if it has a main thing or is empty, and only then -/
  ordered : (∃ s, a.order = .ok s) ↔ a.HasMain ∨ a.isEmpty = true
  /-- the order keeps everything that it holds -/
  routed s : a.order = .ok s → a.Routed s

/-- A call is refused if there is a main thing on both sides. -/
theorem exists_error_iff (call : Call) (ha : a.Tagged) :
    (∃ defect, (call.edit.on a).1 = .error defect) ↔ a.HasMain ∧ call.brought.HasMain := by
  rw [call.on_edit, exists_settled_error_iff, Clash, ← ha.hasMain_iff,
    ← (Tagged.invariant.brought call).hasMain_iff]

/-- All laws follow from the tag, which tells whether there is a main thing. -/
theorem Tagged.lawful (h : a.Tagged) : a.Lawful where
  tagged := h
  unchanged call defect hdefect := by
    rw [call.on_edit] at hdefect ⊢
    rw [settled_snd, if_pos (exists_settled_error_iff.mp ⟨defect, hdefect⟩)]
  addMainEntity entity :=
    (exists_error_iff (.mainEntity entity) h).trans (and_iff_left ⟨_, rfl⟩)
  addMainRelation relation players :=
    (exists_error_iff (.mainRelation relation players) h).trans (and_iff_left ⟨_, rfl⟩)
  addHelper entity relation := by
    rw [Edit.on_addHelper]
  addLink owner target relation := by
    rw [Edit.on_addLink]
  extend calls := exists_error_iff (.extend calls) h
  nothing_extended := nothing_extended a
  extended_nothing := extended_nothing a
  extended_assoc := extended_assoc a
  ordered := by rw [exists_order_iff, h.hasMain_iff]
  routed _ hs := routed_of_order hs

end Assembly

/-! ## Drafts -/

namespace Draft

/-- What a call on a draft comes to, said of the assembly that the draft stands for. -/
def settled (d : Draft) : Except DraftDefect Draft → Except DraftDefect Unit × Assembly
  | .ok d' => (.ok (), d'.assembly)
  | .error defect => (.error defect, d.assembly)

/-- The assembly that a draft stands for is edited as the draft is. -/
structure Refined (d : Draft) : Prop where
  /-- where an entity becomes the main thing -/
  addMainEntity entity :
    (Edit.addMainEntity entity).on d.assembly = d.settled (d.addMain (.entity entity))
  /-- where a relation becomes the main thing -/
  addMainRelation relation players :
    (Edit.addMainRelation relation players).on d.assembly =
      d.settled (d.addMain (.relation relation players))
  /-- where a helper is added -/
  addHelper entity relation :
    (Edit.addHelper entity relation).on d.assembly =
      (.ok (), (d.attach (.helper entity relation)).assembly)
  /-- where a link is added -/
  addLink owner target relation :
    (Edit.addLink owner target relation).on d.assembly =
      (.ok (), (d.attach (.link owner target relation)).assembly)
  /-- where it is extended by another draft -/
  extend other : (Edit.extend other.assembly).on d.assembly = d.settled (d.extend other)
  /-- both are empty together -/
  isEmpty : d.assembly.isEmpty = d.isEmpty

variable {d other : Draft}

/-- Helpers and links are brought to the statements that are theirs. -/
theorem assembly_attach (d : Draft) (a : Attachments) :
    (d.attach a).assembly = d.assembly.join a.assembly := by
  rw [assembly_eq, assembly_eq, a.assembly_eq, Assembly.join, Statement.append_nothing]
  change Assembly.mk d.mainStatement d.kind (d.toAttachments ++ a).helperStatement
    (d.toAttachments ++ a).linkStatement = _
  rw [Attachments.Alike.helperStatement_append, Attachments.Alike.linkStatement_append]
  rfl

/-- Without a main thing there is only what is attached. -/
theorem assembly_attachments (a : Attachments) : assembly ⟨a, none⟩ = a.assembly := by
  rw [assembly_eq, a.assembly_eq]
  rfl

/-- The tag of its assembly is the kind of a draft. -/
theorem kind_assembly (d : Draft) : d.assembly.kind = d.kind := by rw [assembly_eq]

/-- A draft with a main thing is tagged so, whatever is attached to it. -/
theorem kind_assembly_ne_none (a : Attachments) (main : MainThing) :
    (assembly ⟨a, some main⟩).kind ≠ .none := by
  rw [kind_assembly]
  cases main with
  | entity e => exact nofun
  | relation r players => exact nofun

/-- A main thing is added to a draft as what it brings is to its assembly. -/
theorem settled_addMain (d : Draft) (main : MainThing) :
    d.settled (d.addMain main) = d.assembly.settled (assembly { main := some main }) := by
  have hbrought := kind_assembly_ne_none {} main
  obtain ⟨attachments, first⟩ := d
  cases first with
  | some first =>
    rw [Assembly.settled_of_clash ⟨kind_assembly_ne_none attachments first, hbrought⟩]
    rfl
  | none =>
    rw [Assembly.settled_of_not_clash fun h => h.1 (kind_assembly ⟨attachments, none⟩),
      Assembly.join, if_neg hbrought, assembly_eq, assembly_eq]
    change (Except.ok (), assembly ⟨attachments, some main⟩) =
      (Except.ok (), Assembly.mk main.statement (kind { main := some main })
        (attachments.helperStatement ++ {}) (attachments.linkStatement ++ {}))
    rw [assembly_eq, Statement.append_nothing, Statement.append_nothing]
    rfl

/-- What another draft holds is added to a draft as it is to its assembly: first its main thing, if
there is one, and then the rest. -/
theorem settled_extend (d other : Draft) :
    d.settled (d.extend other) = d.assembly.settled other.assembly := by
  obtain ⟨attachments, main⟩ := other
  cases main with
  | none =>
    rw [Assembly.settled_of_kind_eq_none (kind_assembly ⟨attachments, none⟩),
      assembly_attachments]
    exact congrArg (Prod.mk _) (assembly_attach d attachments)
  | some main =>
    -- a draft with a main thing is that thing alone, to which the rest is attached
    have hother : assembly ⟨attachments, some main⟩ =
        (assembly { main := some main }).join attachments.assembly :=
      assembly_attach { main := some main } attachments
    have hbrought := kind_assembly_ne_none attachments main
    have hmain := settled_addMain d main
    obtain ⟨attachments', first⟩ := d
    have hnone := kind_assembly ⟨attachments', none⟩
    cases first with
    | some first =>
      -- both have a main thing: neither side takes anything over
      rw [Assembly.settled_of_clash ⟨kind_assembly_ne_none attachments' first, hbrought⟩]
      rfl
    | none =>
      rw [Assembly.settled_of_not_clash fun h => h.1 hnone] at hmain ⊢
      rw [hother, ← Assembly.join_assoc, ← (Prod.mk.inj hmain).2]
      exact congrArg (Prod.mk _) (assembly_attach ⟨attachments', some main⟩ attachments)

/-- The call that brings a main thing. -/
def mainCall : MainThing → Assembly.Call
  | .entity e => .mainEntity e
  | .relation r players => .mainRelation r players

/-- The call brings the assembly of the main thing alone. -/
theorem brought_mainCall (main : MainThing) :
    (mainCall main).brought = assembly { main := some main } := by
  rw [assembly_eq]
  cases main with
  | entity e => rfl
  | relation r players => rfl

/-- Each edit of a draft's assembly is what the draft does. -/
theorem refined (d : Draft) : d.Refined where
  addMainEntity entity := by
    rw [Edit.on_addMainEntity, settled_addMain, ← brought_mainCall]
    rfl
  addMainRelation relation players := by
    rw [Edit.on_addMainRelation, settled_addMain, ← brought_mainCall]
    rfl
  addHelper entity relation := by
    rw [Edit.on_addHelper, assembly_attach]
    rfl
  addLink owner target relation := by
    rw [Edit.on_addLink, assembly_attach]
    rfl
  extend other := by rw [Edit.on_extend, settled_extend]
  isEmpty := by
    rw [assembly_eq]
    obtain ⟨⟨helpers, links⟩, main⟩ := d
    rcases main with _ | (e | ⟨r, players⟩)
    · exact (isEmpty_attachments _).symm
    · rfl
    · cases players <;> rfl

/-! ## Drafts and calls -/

/-- What can be built without clashes is the assembly of a draft. -/
theorem invariant_assembly : Assembly.Invariant fun a => ∃ d : Draft, d.assembly = a where
  new := ⟨{}, rfl⟩
  mainEntity entity := ⟨_, (brought_mainCall (.entity entity)).symm⟩
  mainRelation relation players := ⟨_, (brought_mainCall (.relation relation players)).symm⟩
  helper entity relation := ⟨{ toAttachments := .helper entity relation }, rfl⟩
  link owner target relation := ⟨{ toAttachments := .link owner target relation }, rfl⟩
  join := by
    rintro _ _ ⟨d, rfl⟩ ⟨other, rfl⟩ h
    have hextend := settled_extend d other
    rw [Assembly.settled_of_not_clash h] at hextend
    cases hd : d.extend other with
    | error defect =>
      rw [hd] at hextend
      exact nomatch (Prod.mk.inj hextend).1
    | ok both =>
      rw [hd] at hextend
      exact ⟨both, (Prod.mk.inj hextend).2⟩

/-- Calls that add helpers and links. -/
def attachmentCalls (a : Attachments) : List Assembly.Call :=
  (a.helpers.map fun h => .helper h.entity h.relation) ++
    a.links.map fun l => .link l.owner l.target l.relation

/-- Calls that build the assembly of a draft. -/
def calls (d : Draft) : List Assembly.Call :=
  d.main.toList.map mainCall ++ attachmentCalls d.toAttachments

/-- What is attached is brought by its calls, which go through whatever is there. -/
theorem builtFrom_attachmentCalls (a : Attachments) (s : Assembly) :
    Assembly.builtFrom (attachmentCalls a) s = s.join a.assembly := by
  have hhelpers := Assembly.on_each_eq_builtFrom (fun h : Helper => .helper h.entity h.relation)
    (fun h => by rw [Assembly.Call.edit]) (fun _ => rfl) a.helpers s
  have hlinks := Assembly.on_each_eq_builtFrom
    (fun l : Link => .link l.owner l.target l.relation)
    (fun l => by rw [Assembly.Call.edit]) (fun _ => rfl) a.links
  have hrun : a.edit.on s = (.ok (), Assembly.builtFrom (attachmentCalls a) s) := by
    rw [attachmentCalls, Assembly.builtFrom_append]
    exact (Edit.on_bind_ok hhelpers).trans (hlinks _)
  rw [a.on_edit, ← a.assembly_eq] at hrun
  exact (Prod.mk.inj hrun).2.symm

/-- Every draft stands for an assembly that calls build. -/
theorem built_calls (d : Draft) : Assembly.built d.calls = d.assembly := by
  obtain ⟨attachments, main⟩ := d
  have hmain : Assembly.builtFrom (main.toList.map mainCall) {} = assembly { main } := by
    cases main with
    | none => rfl
    | some main => exact (Assembly.builtFrom_single _).trans (brought_mainCall main)
  calc Assembly.built (calls ⟨attachments, main⟩)
      = (assembly { main }).join attachments.assembly := by
        rw [Assembly.built, calls, Assembly.builtFrom_append, hmain, builtFrom_attachmentCalls]
    _ = assembly ⟨attachments, main⟩ := (assembly_attach { main } attachments).symm

end Draft

/-- **What calls build obeys the laws of assemblies.** After any calls, of which some may have been
refused and some may have added what other calls have built, the tag tells what the main statement
holds; a call that is refused leaves everything as it was; no second main thing gets in; extending
is associative and has a new assembly as its unit; ordering puts everything in its place; and each
statement is what the calls that went through have brought to it, in their order. What can be built
are the assemblies that drafts stand for, and these are edited as the drafts are. -/
theorem Assembly.built_lawful :
    (∀ calls, (built calls).Lawful ∧ (built calls).MadeOf (accepted calls {})) ∧
    (∀ a, (∃ calls, built calls = a) ↔ ∃ d : Draft, d.assembly = a) ∧
    ∀ d : Draft, d.Refined := by
  refine ⟨fun calls => ⟨(Tagged.invariant.built calls).lawful, built_madeOf calls⟩,
    fun a => ⟨?_, ?_⟩, Draft.refined⟩
  · rintro ⟨calls, rfl⟩
    exact Draft.invariant_assembly.built calls
  · rintro ⟨d, rfl⟩
    exact ⟨d.calls, d.built_calls⟩

/-- An assembly with a main thing refuses one that brings a helper and a main thing, and nothing of
it is left behind. -/
theorem Assembly.built_lawful_second :
    let main : Call := .mainEntity { var := "v0", typeName := "tool" }
    let helper : Call :=
      .helper { var := "v1", typeName := "hash" }
        { var := "v2", typeName := "hashes", roles := [("owner", ["v0"]), ("hash", ["v1"])] }
    ((Call.extend [helper, main]).edit.on (built [main])).1 = .error .twoMainThings ∧
      ((Call.extend [helper, main]).edit.on (built [main])).2 = built [main] :=
  ⟨rfl, (built_lawful.1 [_]).1.unchanged _ .twoMainThings rfl⟩

end ThreatGraph
