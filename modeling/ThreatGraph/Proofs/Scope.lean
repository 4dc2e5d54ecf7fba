import ThreatGraph.Mapping.Loading
import ThreatGraph.Proofs.Attachment
import ThreatGraph.Proofs.Renaming

/-!
# The variables of statements

An object is converted to up to three statements, which are run one after the other, so a relation
can only name players that its own statement matches or inserts. `convertObject_scoped` says that
every statement is closed in this sense, that no variable stands for two things, also not in
different statements, and that, unless a property failed, the variables are `v0`, `v1`, … without
a gap.

The variables of a draft are counted in `Collected.Drawn`: a property that is converted accounts
for all that it draws from the supply, one that fails may have drawn some in vain.
-/

namespace ThreatGraph

open Variables (nameOf between)
open Naming

/-! ## Things, players and variables -/

namespace Statement

/-- The things of a statement, those it matches first. -/
def things (s : Statement) : List Thing := s.matched ++ s.inserted

/-- The variables of the things. -/
def vars (s : Statement) : List String := s.things.map Thing.var

/-- Every player of a relation that is inserted is a thing of the statement. -/
def Scoped (s : Statement) : Prop :=
  ∀ r, .relation r ∈ s.inserted → ∀ x ∈ r.allPlayers, x ∈ s.vars

end Statement

/-- The statements that there are, in the order in which they are run. -/
def OrderedStatements.toList (s : OrderedStatements) : List Statement :=
  s.entities.toList ++ s.relations.toList ++ s.embedded.toList

/-- The variables of all statements. -/
def OrderedStatements.vars (s : OrderedStatements) : List String :=
  s.toList.flatMap Statement.vars

namespace MainThing

/-- The variable of the thing that stands for the object. -/
def var : MainThing → String
  | .entity e => e.var
  | .relation r _ => r.var

/-- The variables of the things that come with it, its own last. -/
def vars : MainThing → List String
  | .entity e => [e.var]
  | .relation r players => players.map Entity.var ++ [r.var]

/-- The players of a relation are among the entities that it comes with. -/
def Scoped : MainThing → Prop
  | .entity _ => True
  | .relation r players => ∀ x ∈ r.allPlayers, x ∈ players.map Entity.var

/-- The variable of the main thing is one of its variables. -/
theorem var_mem_vars (main : MainThing) : main.var ∈ main.vars := by
  cases main <;> simp [var, vars]

end MainThing

/-- The variables of everything that was drafted. -/
def Draft.vars (d : Draft) : List String :=
  d.main.elim [] MainThing.vars ++ d.toAttachments.vars

/-- Whoever plays after one more player was added has played before or is that player. -/
theorem Relation.mem_allPlayers_addPlayer {r : Relation} {role player x : String} :
    x ∈ (r.addPlayer role player).allPlayers ↔ x ∈ r.allPlayers ∨ x = player := by
  simp only [allPlayers, addPlayer, List.mem_map, Multimap.mem_pairs_add]
  constructor
  · rintro ⟨pair, hpair | rfl, rfl⟩
    · exact .inl ⟨pair, hpair, rfl⟩
    · exact .inr rfl
  · rintro (⟨pair, hpair, rfl⟩ | rfl)
    · exact ⟨pair, .inl hpair, rfl⟩
    · exact ⟨(role, x), .inr rfl, rfl⟩

theorem Relation.mem_allPlayers_foldl {players : List (String × Entity)} {r : Relation}
    {x : String} (h : x ∈ (players.foldl (fun r p => r.addPlayer p.1 p.2.var) r).allPlayers) :
    x ∈ r.allPlayers ∨ x ∈ players.map fun p => p.2.var := by
  induction players generalizing r with
  | nil => exact .inl h
  | cons p rest ih =>
    rcases ih h with h | h
    · rcases mem_allPlayers_addPlayer.mp h with h | rfl
      · exact .inl h
      · exact .inr List.mem_cons_self
    · exact .inr (List.mem_cons_of_mem _ h)

@[simp] theorem Relation.var_addAttributes (r : Relation) (name : String)
    (values : List String) : (r.addAttributes name values).var = r.var := rfl

@[simp] theorem Relation.allPlayers_foldl_addAttributes (attributes : List (String × List String))
    (r : Relation) :
    (attributes.foldl (fun r a => r.addAttributes a.1 a.2) r).allPlayers = r.allPlayers := by
  induction attributes generalizing r with
  | nil => rfl
  | cons a rest ih => rw [List.foldl_cons, ih, allPlayers_addAttributes]

@[simp] theorem Relation.var_foldl_addAttributes (attributes : List (String × List String))
    (r : Relation) : (attributes.foldl (fun r a => r.addAttributes a.1 a.2) r).var = r.var := by
  induction attributes generalizing r with
  | nil => rfl
  | cons a rest ih =>
    rw [List.foldl_cons, ih]
    rfl

@[simp] theorem Relation.var_foldl_addPlayer (players : List (String × Entity)) (r : Relation) :
    (players.foldl (fun r p => r.addPlayer p.1 p.2.var) r).var = r.var := by
  induction players generalizing r with
  | nil => rfl
  | cons p rest ih =>
    rw [List.foldl_cons, ih]
    rfl

/-! ## What properties draw -/

/-- Properties of the object of `r` are converted to `c`, and the supply `v` becomes `w` on the
way: no variable of `c` is used twice or from elsewhere, and none is lost unless a property
failed. -/
structure Collected.Drawn (r : Reference) (v : Variables) (c : Collected) (w : Variables) :
    Prop where
  le : v.issued ≤ w.issued
  vars : c.attachments.vars.Subperm (between v w)
  complete : (∀ skipped ∈ c.skipped, skipped.reason = .unmapped) →
    c.attachments.vars.Perm (between v w)
  inReach : c.attachments.InReach r

namespace Collected.Drawn

variable {r : Reference} {u v w : Variables} {c d : Collected}

/-- What is built in the ways of `Attached` accounts for every variable. -/
theorem of_attached (h : Attached r v c.attachments w) : c.Drawn r v w where
  le := h.le
  vars := h.vars_perm.subperm
  complete _ := h.vars_perm
  inReach := h.inReach

theorem append (hc : c.Drawn r u v) (hd : d.Drawn r v w) : (c ++ d).Drawn r u w where
  le := Nat.le_trans hc.le hd.le
  vars := by
    rw [← Variables.between_append hc.le hd.le]
    exact (Attachments.vars_append _ _).subperm.trans (hc.vars.append hd.vars)
  complete hskipped := by
    rw [← Variables.between_append hc.le hd.le]
    refine (Attachments.vars_append _ _).trans ((hc.complete ?_).append (hd.complete ?_))
    · exact fun skipped h => hskipped skipped (List.mem_append_left _ h)
    · exact fun skipped h => hskipped skipped (List.mem_append_right _ h)
  inReach := hc.inReach.append hd.inReach

end Collected.Drawn

namespace Subject

variable {s : Subject} {self : Reference} {v w : Variables} {c : Collected}

/-- A property that is converted accounts for what it draws. -/
theorem property_drawn {label : String} {info : Option AttributeInfo} {raw : Json}
    (h : (s.property self label info raw).outcome v = (.ok c, w)) : c.Drawn self v w := by
  rcases property_ok h with ⟨-, rfl, rfl⟩ | ⟨i, converted, -, hvalue, rfl⟩ |
    ⟨i, defect, -, -, hvalue, rfl⟩
  · exact .of_attached (.nothing self w)
  · exact .of_attached (convertValue_attached i.valueType raw hvalue)
  -- what was built before the failure is dropped, and only the supply has moved on
  · have hle := (convertValue_follows Shift.still s.mapping ⟨self, i.name⟩ i.valueType raw v
      (Nat.zero_le _)).1
    rw [hvalue] at hle
    refine ⟨hle, List.nil_subperm, fun hskipped => ?_, (Attached.nothing self v).inReach⟩
    exact absurd (hskipped _ List.mem_cons_self) (by simp)

theorem propertiesBy_drawn {entry : String → Except MappingDefect (Option AttributeInfo)}
    {label : String → String} : ∀ (members : Members) {v w : Variables} {c : Collected},
    (s.propertiesBy self entry label members).outcome v = (.ok c, w) → c.Drawn self v w
  | [], v, w, c, h => by
    obtain ⟨rfl, rfl⟩ := pure_eq_ok.mp h
    exact .of_attached (.nothing self v)
  | (name, raw) :: rest, v, w, c, h => by
    obtain ⟨info, first, others, u, -, hfirst, hothers, rfl⟩ := propertiesBy_cons_ok h
    exact (property_drawn hfirst).append (propertiesBy_drawn rest hothers)

theorem properties_drawn {roleplayers : List String} {extensions : Option Members}
    (h : (s.properties self roleplayers extensions).outcome v = (.ok c, w)) :
    c.Drawn self v w := by
  obtain ⟨own, u, relevant, hown, -, hrest⟩ := properties_eq_ok.mp h
  rcases hrest with ⟨-, rfl, rfl⟩ | ⟨name, members, more, -, -, hmore, rfl⟩
  · exact propertiesBy_drawn _ hown
  · exact (propertiesBy_drawn _ hown).append (propertiesBy_drawn members hmore)

/-! ## What the main thing draws -/

/-- Objects that are matched take a variable each. -/
theorem matchIds_vars {property : String} : ∀ (ids : List String) {v w : Variables}
    {entities : List Entity}, (s.matchIds property ids).outcome v = (.ok entities, w) →
      v.issued ≤ w.issued ∧ entities.map Entity.var = between v w
  | [], v, w, entities, h => by
    obtain ⟨rfl, rfl⟩ := pure_eq_ok.mp h
    simp
  | id :: rest, v, w, entities, h => by
    obtain ⟨playerType, supertype, others, -, -, hothers, rfl⟩ := matchIds_cons_ok h
    obtain ⟨hle, hvars⟩ := matchIds_vars rest hothers
    refine ⟨Nat.le_of_succ_le hle, ?_⟩
    rw [List.map_cons, hvars,
      ← Variables.between_append (v := ⟨v.issued + 1⟩) (Nat.le_succ _) hle]
    simp [between, Entity.matching]

theorem players_vars {typeName : String} : ∀ (properties : List String) {v w : Variables}
    {players : List (String × Entity)},
    (s.players typeName properties).outcome v = (.ok players, w) →
      v.issued ≤ w.issued ∧ (players.map fun p => p.2.var) = between v w
  | [], v, w, players, h => by
    obtain ⟨rfl, rfl⟩ := pure_eq_ok.mp h
    simp
  | property :: rest, v, w, players, h => by
    rcases players_cons_ok h with ⟨-, hrest⟩ |
      ⟨raw, ids, role, entities, others, u, -, -, -, hmatch, hothers, rfl⟩
    · exact players_vars rest hrest
    · obtain ⟨hle, hvars⟩ := matchIds_vars ids hmatch
      obtain ⟨hle', hothersVars⟩ := players_vars rest hothers
      refine ⟨Nat.le_trans hle hle', ?_⟩
      rw [List.map_append, List.map_map, hothersVars, ← Variables.between_append hle hle', ← hvars]
      rfl

end Subject

/-- An object is drafted as `d`, and the supply `v` becomes `w` on the way. -/
structure Draft.Drawn (v : Variables) (d : Draft) (skipped : List Skipped) (w : Variables) :
    Prop where
  vars : d.vars.Subperm (between v w)
  complete : (∀ entry ∈ skipped, entry.reason = .unmapped) → d.vars.Perm (between v w)
  closed : ∃ main r, d.main = some main ∧ main.Scoped ∧ r.var = some main.var ∧
    d.toAttachments.InReach r

namespace Subject

variable {s : Subject} {v w : Variables} {d : Draft} {skipped : List Skipped}

/-- Properties come after the main thing, whose variables are the first that are drawn. -/
theorem draft_drawn_of_properties {u : Variables} {self : Reference} {c : Collected}
    {main : MainThing} (hmain : main.vars.Perm (between v u)) (hle : v.issued ≤ u.issued)
    (hscoped : main.Scoped) (hself : self.var = some main.var) (hc : c.Drawn self u w) :
    Draft.Drawn v { toAttachments := c.attachments, main := some main } c.skipped w where
  vars := by
    rw [← Variables.between_append hle hc.le]
    exact hmain.subperm.append hc.vars
  complete hskipped := by
    rw [← Variables.between_append hle hc.le]
    exact hmain.append (hc.complete hskipped)
  closed := ⟨main, self, rfl, hscoped, hself, hc.inReach⟩

/-- The entity that stands for an object takes one variable. -/
theorem mainEntity_vars (n : Nat) (typeName : String) (attributes : List (String × List String)) :
    (mainEntity n typeName attributes).vars = between ⟨n⟩ ⟨n + 1⟩ := by
  simp [mainEntity, MainThing.vars, between]

theorem mainEntity_var (n : Nat) (typeName : String) (attributes : List (String × List String)) :
    (mainEntity n typeName attributes).var = nameOf n := by
  simp [mainEntity, MainThing.var]

theorem mainRelation_var (n : Nat) (typeName : String) (players : List (String × Entity))
    (attributes : List (String × List String)) :
    (s.mainRelation n typeName players attributes).var = nameOf n := by
  simp [mainRelation, MainThing.var]

/-- The relation's own variable comes before those of its players. -/
theorem mainRelation_vars {typeName : String} {players : List (String × Entity)}
    (hle : v.issued + 1 ≤ w.issued)
    (hplayers : (players.map fun p => p.2.var) = between ⟨v.issued + 1⟩ w)
    (attributes : List (String × List String)) :
    (s.mainRelation v.issued typeName players attributes).vars.Perm (between v w) := by
  have hfirst : between v ⟨v.issued + 1⟩ = [nameOf v.issued] := by simp [between]
  rw [← Variables.between_append (v := ⟨v.issued + 1⟩) (Nat.le_succ _) hle, hfirst, ← hplayers]
  simp only [mainRelation, MainThing.vars, List.map_map, Relation.var_foldl_addAttributes,
    Relation.var_addAttributes, Relation.var_foldl_addPlayer]
  exact List.perm_append_singleton _ _

/-- This relation is closed: its players are matched in the same statement. -/
theorem mainRelation_scoped (n : Nat) (typeName : String) (players : List (String × Entity))
    (attributes : List (String × List String)) :
    (s.mainRelation n typeName players attributes).Scoped := by
  intro x hx
  rw [Relation.allPlayers_foldl_addAttributes, Relation.allPlayers_addAttributes] at hx
  rcases Relation.mem_allPlayers_foldl hx with hx | hx
  · exact absurd hx List.not_mem_nil
  · rwa [List.map_map]

/-- An entity that is drafted accounts for all variables. -/
theorem entityDraft_drawn {typeName : String} {extensions : Option Members}
    (h : (s.entityDraft typeName extensions).outcome v = (.ok (d, skipped), w)) :
    d.Drawn v skipped w := by
  obtain ⟨collected, hcollected, hd⟩ := entityDraft_eq_ok.mp h
  obtain ⟨rfl, rfl⟩ := Prod.mk.inj hd
  refine draft_drawn_of_properties ?_ (Nat.le_succ _) trivial ?_ (properties_drawn hcollected)
  · rw [mainEntity_vars]
  · rw [mainEntity_var, Reference.known_nameOf]

theorem relationDraft_drawn {typeName : String} {extensions : Option Members}
    (h : (s.relationDraft typeName extensions).outcome v = (.ok (d, skipped), w)) :
    d.Drawn v skipped w := by
  obtain ⟨roleplayers, players, u, collected, -, hplayers, -, hcollected, hd⟩ :=
    relationDraft_eq_ok.mp h
  obtain ⟨rfl, rfl⟩ := Prod.mk.inj hd
  obtain ⟨hle, hvars⟩ := players_vars roleplayers hplayers
  refine draft_drawn_of_properties (mainRelation_vars hle hvars _) (Nat.le_of_succ_le hle)
    (mainRelation_scoped _ _ _ _) ?_ (properties_drawn hcollected)
  rw [mainRelation_var, Reference.known_nameOf]

theorem draft_drawn {objectClass : ObjectClass}
    (h : (s.draft objectClass).outcome v = (.ok (d, skipped), w)) : d.Drawn v skipped w := by
  obtain ⟨extensions, typeName, -, -, h⟩ := draft_eq_ok.mp h
  split at h
  · exact relationDraft_drawn h
  · exact entityDraft_drawn h

end Subject

/-! ## From drafts to statements -/

namespace Attachments

/-- A helper statement has the helpers and their ties. -/
theorem vars_helperStatement (a : Attachments) :
    a.helperStatement.vars = a.helpers.flatMap fun h => [h.entity.var, h.relation.var] := by
  simp [Statement.vars, Statement.things, helperStatement, List.map_flatMap, Thing.var]

/-- A link statement has the links and their ends, the links last. -/
theorem vars_linkStatement (a : Attachments) : a.linkStatement.vars.Perm
    (a.links.flatMap fun l => [l.owner.var, l.target.var, l.relation.var]) := by
  simp only [Statement.vars, Statement.things, linkStatement, List.map_append]
  induction a.links with
  | nil => exact .nil
  | cons l rest ih =>
    refine .cons _ (.cons _ ?_)
    exact List.perm_middle.trans (ih.cons _)

/-- A link's players are the entities that are matched for it. -/
theorem scoped_linkStatement {a : Attachments} {r : Reference} (h : a.InReach r) :
    a.linkStatement.Scoped := by
  intro relation hrelation x hx
  obtain ⟨l, hl, heq⟩ := List.mem_map.mp hrelation
  obtain rfl := Thing.relation.inj heq
  have hends : .entity l.owner ∈ a.linkStatement.matched ∧
      .entity l.target ∈ a.linkStatement.matched := by
    constructor <;> exact List.mem_flatMap.mpr ⟨l, hl, by simp⟩
  -- both ends of a link are matched, so it needs nothing of other statements
  rcases h.links l hl x hx with rfl | rfl
  · exact List.mem_map.mpr ⟨_, List.mem_append_left _ hends.1, rfl⟩
  · exact List.mem_map.mpr ⟨_, List.mem_append_left _ hends.2, rfl⟩

end Attachments

namespace MainThing

/-- The statement of the main thing with its helpers. -/
theorem vars_statement (main : MainThing) (a : Attachments) :
    (main.statement ++ a.helperStatement).vars.Perm (main.vars ++ a.helperStatement.vars) := by
  cases main with
  | entity e => exact .refl _
  | relation r players =>
    change (((players.map Thing.entity ++ []) ++ Thing.relation r :: _).map Thing.var).Perm _
    simp only [vars, Statement.vars, Statement.things, Attachments.helperStatement,
      List.append_nil, List.map_append, List.map_map, List.map_cons, List.append_assoc]
    exact .refl _

/-- The players of the main thing and those of the ties of its helpers are in the statement. -/
theorem scoped_statement {main : MainThing} {a : Attachments} {r : Reference}
    (hmain : main.Scoped) (hr : r.var = some main.var) (h : a.InReach r) :
    (main.statement ++ a.helperStatement).Scoped := by
  intro relation hrelation x hx
  refine (main.vars_statement a).mem_iff.mpr (List.mem_append.mpr ?_)
  rcases List.mem_append.mp hrelation with hrelation | hrelation
  · cases main with
    | entity e => simp [statement] at hrelation
    | relation r players =>
      obtain rfl := Thing.relation.inj (List.mem_singleton.mp hrelation)
      exact .inl (List.mem_append_left _ (hmain x hx))
  · obtain ⟨helper, hhelper, heq⟩ := List.mem_flatMap.mp hrelation
    obtain rfl : relation = helper.relation := by simpa using heq
    -- a helper's owner is the main thing or another helper
    rcases h.helpers helper hhelper x hx with hx | ⟨other, hother, rfl⟩
    · obtain rfl := Option.some.inj (hr.symm.trans hx)
      exact .inl main.var_mem_vars
    · rw [Attachments.vars_helperStatement]
      exact .inr (List.mem_flatMap.mpr ⟨other, hother, List.mem_cons_self⟩)

end MainThing

/-- A statement is left out only if it has no things. -/
theorem Statement.flatMap_nonempty? {α : Type} {f : Statement → List α} (hf : f {} = [])
    (s : Statement) : s.nonempty?.toList.flatMap f = f s := by
  obtain ⟨matched, inserted⟩ := s
  by_cases h : matched = [] ∧ inserted = []
  · obtain ⟨rfl, rfl⟩ := h
    exact hf.symm
  · simp [nonempty?, isEmpty, h]

/-- Putting a draft in order neither loses nor adds a thing. -/
theorem Draft.vars_order {d : Draft} {statements : OrderedStatements} {main : MainThing}
    (hmain : d.main = some main) (h : d.order = .ok statements) :
    statements.vars.Perm d.vars ∧ ∀ s ∈ statements.toList,
      s = main.statement ++ d.helperStatement ∨ s = d.linkStatement := by
  have hlinks : ∀ s ∈ d.linkStatement.nonempty?.toList, s = d.linkStatement := by
    intro s hs
    rw [Statement.nonempty?] at hs
    split at hs
    · exact absurd hs List.not_mem_nil
    · exact List.mem_singleton.mp hs
  have hembedded :
      d.linkStatement.nonempty?.toList.flatMap Statement.vars = d.linkStatement.vars :=
    Statement.flatMap_nonempty? rfl _
  -- the statements take up the variables of the draft in another order
  have hvars :
      ((main.statement ++ d.helperStatement).vars ++ d.linkStatement.vars).Perm d.vars := by
    rw [vars, hmain, Option.elim, Attachments.vars, ← List.append_assoc,
      ← Attachments.vars_helperStatement]
    exact (main.vars_statement _).append (Attachments.vars_linkStatement _)
  rw [order_eq] at h
  cases main with
  | entity e =>
    rw [hmain] at h
    obtain rfl := Except.ok.inj h
    refine ⟨?_, fun s hs => ?_⟩
    · rwa [← hembedded] at hvars
    · exact (List.mem_cons.mp hs).imp_right (hlinks s)
  | relation r players =>
    rw [hmain] at h
    obtain rfl := Except.ok.inj h
    refine ⟨?_, fun s hs => ?_⟩
    · rwa [← hembedded] at hvars
    · exact (List.mem_cons.mp hs).imp_right (hlinks s)

/-- **Statements are closed.** Whatever the mapping and the object, if the object is converted,
then every player of a relation that is inserted is a thing of the same statement, no two things
of the statements share a variable, and if nothing was skipped but for lack of an entry in the
mapping, the variables are the first so many. -/
theorem convertObject_scoped {m : Mapping} {strict : Bool} {object : Members} {c : Conversion}
    (h : convertObject m strict object = .ok c) :
    (∀ s ∈ c.statements.toList, s.Scoped) ∧ c.statements.vars.Nodup ∧
      ((∀ entry ∈ c.skipped, entry.reason = .unmapped) →
        ∃ n, ∀ x, x ∈ c.statements.vars ↔ ∃ k < n, nameOf k = x) := by
  obtain ⟨s, -, h⟩ := convertObject_ok h
  rcases Subject.convert_ok h with ⟨-, rfl⟩ |
    ⟨objectClass, draft, skipped, w, statements, -, hdraft, horder, rfl⟩
  · refine ⟨fun s hs => absurd hs List.not_mem_nil, List.nodup_nil, fun _ => ⟨0, fun x => ?_⟩⟩
    simp [OrderedStatements.vars, OrderedStatements.toList]
  · obtain ⟨hsubperm, hcomplete, main, r, hmain, hscoped, hr, hreach⟩ :=
      Subject.draft_drawn hdraft
    obtain ⟨hvars, hstatements⟩ := Draft.vars_order hmain horder
    refine ⟨fun s hs => ?_, ?_, fun hskipped => ⟨w.issued, fun x => ?_⟩⟩
    · rcases hstatements s hs with rfl | rfl
      · exact MainThing.scoped_statement hscoped hr hreach
      · exact Attachments.scoped_linkStatement hreach
    · obtain ⟨drawn, hperm, hsublist⟩ := hsubperm
      have hdrawn := hsublist.nodup (Variables.nodup_between _ _)
      exact hvars.nodup_iff.mpr (hperm.nodup_iff.mp hdrawn)
    · rw [hvars.mem_iff, (hcomplete hskipped).mem_iff, Variables.mem_between]
      simp

/-- The documents of a small mapping: tools with nested phases and a reference to their maker. -/
def toolDocuments : Documents where
  classes := { domain := ["tool", "identity"] }
  domainObjects :=
    [("tool",
      { typeName := "tool"
        attributes :=
          [("name", { name := "name", valueType := .scalar .string }),
            ("phases", { name := "phase", valueType := .list (.composite "phase") }),
            ("maker", { name := "made::maker", valueType := .relation "making" })] }),
      ("identity", { typeName := "identity" })]
  composites :=
    [("phase",
      { typeName := "phase"
        attributes := [("title", { name := "title", valueType := .scalar .string })]
        relation := ⟨"phase-use", "user", "used"⟩ })]
  dictionary := ⟨"key", "property", ⟨"entry", "holder", "held"⟩, []⟩

/-- A tool with two phases and a maker. -/
def toolObject : Members :=
  [("id", .string "tool--1"), ("type", .string "tool"), ("name", .string "x"),
    ("phases", .array [.object [("title", .string "a")], .object [("title", .string "b")]]),
    ("maker", .string "identity--1")]

/-- The tool, its two phases with their ties, and its link are closed and use eight variables. -/
theorem convertObject_scoped_tool : ∃ m c, Mapping.ofDocuments toolDocuments = .ok m ∧
    convertObject m true toolObject = .ok c ∧ c.statements.vars.length = 8 ∧
    (∀ s ∈ c.statements.toList, s.Scoped) ∧ c.statements.vars.Nodup ∧
      ∃ n, ∀ x, x ∈ c.statements.vars ↔ ∃ k < n, nameOf k = x := by
  have hrun : ∃ m c, Mapping.ofDocuments toolDocuments = .ok m ∧
      convertObject m true toolObject = .ok c ∧ c.statements.vars.length = 8 ∧
      c.skipped = [⟨"id", .unmapped⟩, ⟨"type", .unmapped⟩] :=
    ⟨_, _, rfl, rfl, rfl, rfl⟩
  obtain ⟨m, c, hm, hc, hlength, hskipped⟩ := hrun
  obtain ⟨hscoped, hnodup, hvars⟩ := convertObject_scoped hc
  exact ⟨m, c, hm, hc, hlength, hscoped, hnodup, hvars (by simp [hskipped])⟩

end ThreatGraph
