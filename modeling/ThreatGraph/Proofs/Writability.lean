import ThreatGraph.Proofs.Precedence
import ThreatGraph.Proofs.Scope

/-!
# Whatever is converted is loaded or rejected

A statement has a text if it inserts something and all its relations have players
(`Statement.Writable`). Conversions make no others: a helper's tie has two players, a link has two,
the relation that stands for an object has one at least, and there is a statement for the links of
an object only if it has some.

So no statement is left out on the way to the store, and the summary of a load covers them all
(`loadCollection_covers`).
-/

namespace ThreatGraph

open Naming

/-! ## Statements that have a text -/

/-- The statement inserts something, and every relation in it has players. -/
structure Statement.Writable (s : Statement) : Prop where
  inserts : s.inserted ≠ []
  played : ∀ r, .relation r ∈ s.things → r.hasRoles = true

/-- Things have lines if none of them is a relation without players. -/
theorem patternLines_of_played {things : List Thing}
    (h : ∀ r, .relation r ∈ things → r.hasRoles = true) :
    ∃ text, patternLines things = .ok text := by
  induction things with
  | nil => exact ⟨"", rfl⟩
  | cons thing rest ih =>
    obtain ⟨others, hothers⟩ := ih fun r hr => h r (List.mem_cons_of_mem _ hr)
    have hthing : ∃ first, thing.text = .ok first := by
      cases thing with
      | entity e => exact ⟨e.text, rfl⟩
      | relation r => exact ⟨_, if_pos (h r List.mem_cons_self)⟩
    obtain ⟨first, hfirst⟩ := hthing
    exact ⟨first ++ "\n" ++ others, by rw [patternLines, hfirst, hothers]; rfl⟩

/-- A statement that can be written has a text, and this is not empty. -/
theorem Statement.Writable.text {s : Statement} (h : s.Writable) :
    ∃ text, s.text = .ok text ∧ text ≠ "" := by
  obtain ⟨references, hreferences⟩ :=
    patternLines_of_played fun r hr => h.played r (List.mem_append_left _ hr)
  obtain ⟨inserts, hinserts⟩ :=
    patternLines_of_played fun r hr => h.played r (List.mem_append_right _ hr)
  have hsome : s.inserted.isEmpty = false := by simpa using h.inserts
  refine ⟨(if s.matched.isEmpty then "" else "match\n" ++ references) ++ "insert\n" ++ inserts,
    ?_, ?_⟩
  · simp only [Statement.text, hsome, Bool.false_eq_true, if_false, hreferences, hinserts]
    rfl
  · simp

/-! ## Relations have players -/

theorem Relation.hasRoles_of_mem {r : Relation} {x : String} (h : x ∈ r.allPlayers) :
    r.hasRoles = true := by
  cases hroles : r.roles with
  | nil => simp [allPlayers, hroles, Multimap.pairs] at h
  | cons => simp [hasRoles, hroles]

/-- Whoever plays before or is added plays in the end. -/
theorem Relation.mem_foldl_addPlayer {players : List (String × Entity)} {r : Relation} {x : String}
    (h : x ∈ r.allPlayers ∨ x ∈ players.map fun p => p.2.var) :
    x ∈ (players.foldl (fun r p => r.addPlayer p.1 p.2.var) r).allPlayers := by
  induction players generalizing r with
  | nil => exact h.resolve_right List.not_mem_nil
  | cons p rest ih =>
    refine ih ?_
    rw [mem_allPlayers_addPlayer]
    rw [List.map_cons, List.mem_cons] at h
    exact or_assoc.mpr h

/-- The relations of helpers and links have players. -/
structure Attachments.Played (a : Attachments) : Prop where
  helpers : ∀ h ∈ a.helpers, h.relation.hasRoles = true
  links : ∀ l ∈ a.links, l.relation.hasRoles = true

/-- The relation that stands for an object, if one does, has players. -/
def MainThing.Played : MainThing → Prop
  | .entity _ => True
  | .relation r _ => r.hasRoles = true

namespace Attachments.Played

theorem nothing : Played {} where
  helpers _ hh := absurd hh List.not_mem_nil
  links _ hl := absurd hl List.not_mem_nil

theorem append {a b : Attachments} (ha : a.Played) (hb : b.Played) : (a ++ b).Played where
  helpers h hh := (List.mem_append.mp hh).elim (ha.helpers h) (hb.helpers h)
  links l hl := (List.mem_append.mp hl).elim (ha.links l) (hb.links l)

end Attachments.Played

/-- Whatever is attached has its players: a tie has two, and so has a link. -/
theorem Attached.played {r : Reference} {v w : Variables} {a : Attachments}
    (h : Attached r v a w) : a.Played := by
  induction h with
  | nothing => exact .nothing
  | append _ _ iha ihb => exact iha.append ihb
  | @link _ _ owner target relation _ _ _ hplayers =>
    have hroles : relation.hasRoles = true :=
      Relation.hasRoles_of_mem (by rw [hplayers]; exact List.mem_cons_self)
    refine ⟨fun _ hh => absurd hh List.not_mem_nil, fun l hl => ?_⟩
    obtain rfl := List.mem_singleton.mp hl
    exact hroles
  | @helper _ _ _ _ _ _ entity tie _ _ _ _ _ hplayers ih =>
    have hroles : tie.hasRoles = true :=
      Relation.hasRoles_of_mem (by rw [hplayers]; exact List.mem_cons_self)
    refine .append ⟨fun h hh => ?_, fun _ hl => absurd hl List.not_mem_nil⟩ ih
    obtain rfl := List.mem_singleton.mp hh
    exact hroles

namespace Subject

variable {s : Subject} {self : Reference} {v w : Variables} {c : Collected}

/-- What holds of the attachments of every value that is converted, of none, and of both of two if
it holds of either, holds of the attachments of all properties. -/
theorem properties_all {P : Attachments → Prop} (hnothing : P {})
    (happend : ∀ {a b}, P a → P b → P (a ++ b))
    (hvalue : ∀ {owner type raw v w} {c : Converted},
      (convertValue s.mapping owner type raw).outcome v = (.ok c, w) → P c.attachments)
    {roleplayers : List String} {extensions : Option Members}
    (h : (s.properties self roleplayers extensions).outcome v = (.ok c, w)) :
    P c.attachments := by
  -- along the members, each of which adds what its value has attached
  have hby {entry : String → Except MappingDefect (Option AttributeInfo)}
      {label : String → String} (members : Members) {v w : Variables} {c : Collected}
      (h : (s.propertiesBy self entry label members).outcome v = (.ok c, w)) :
      P c.attachments := by
    induction members generalizing v c with
    | nil =>
      obtain ⟨rfl, -⟩ := pure_eq_ok.mp h
      exact hnothing
    | cons member rest ih =>
      obtain ⟨info, first, others, u, -, hfirst, hothers, rfl⟩ := propertiesBy_cons_ok h
      refine happend ?_ (ih hothers)
      rcases property_ok hfirst with
        ⟨-, rfl, -⟩ | ⟨i, converted, -, hconverted, rfl⟩ | ⟨i, defect, -, -, -, rfl⟩
      · exact hnothing
      · exact hvalue hconverted
      · exact hnothing
  obtain ⟨own, u, relevant, hown, -, hrest⟩ := properties_eq_ok.mp h
  rcases hrest with ⟨-, rfl, -⟩ | ⟨name, members, more, -, -, hmore, rfl⟩
  · exact hby _ hown
  · exact happend (hby _ hown) (hby _ hmore)

/-- All relations that properties attach have players. -/
theorem properties_played {roleplayers : List String} {extensions : Option Members}
    (h : (s.properties self roleplayers extensions).outcome v = (.ok c, w)) :
    c.attachments.Played :=
  properties_all .nothing .append (fun hvalue => (convertValue_attached _ _ hvalue).played) h

/-- A relation stands for an object only if it names a role player. -/
theorem draft_played {objectClass : ObjectClass} {d : Draft} {skipped : List Skipped}
    (h : (s.draft objectClass).outcome v = (.ok (d, skipped), w)) :
    d.toAttachments.Played ∧ ∀ main, d.main = some main → main.Played := by
  obtain ⟨extensions, typeName, -, -, h⟩ := draft_eq_ok.mp h
  split at h
  · obtain ⟨roleplayers, players, u, c, -, -, hsome, hc, hd⟩ := relationDraft_eq_ok.mp h
    obtain ⟨rfl, rfl⟩ := Prod.mk.inj hd
    refine ⟨properties_played hc, fun main hmain => ?_⟩
    obtain rfl := Option.some.inj hmain
    obtain ⟨player, hplayer⟩ := List.exists_mem_of_ne_nil _ hsome
    refine Relation.hasRoles_of_mem (x := player.2.var) ?_
    rw [Relation.allPlayers_foldl_addAttributes, Relation.allPlayers_addAttributes]
    exact Relation.mem_foldl_addPlayer (.inr (List.mem_map_of_mem hplayer))
  · obtain ⟨c, hc, hd⟩ := entityDraft_eq_ok.mp h
    obtain ⟨rfl, rfl⟩ := Prod.mk.inj hd
    refine ⟨properties_played hc, fun main hmain => ?_⟩
    obtain rfl := Option.some.inj hmain
    trivial

end Subject

/-! ## All statements have a text -/

/-- There is a statement for the main thing with its helpers, and one for the links if there are
some. -/
theorem Draft.mem_order {d : Draft} {statements : OrderedStatements}
    (h : d.order = .ok statements) {statement : Statement}
    (hstatement : statement ∈ statements.toList) :
    (∃ main, d.main = some main ∧ statement = main.statement ++ d.helperStatement) ∨
      (statement = d.linkStatement ∧ d.links ≠ []) := by
  -- links make a statement only if there are any
  have hlinks : statement ∈ d.linkStatement.nonempty?.toList →
      statement = d.linkStatement ∧ d.links ≠ [] := by
    intro hmem
    rw [Statement.nonempty?] at hmem
    split at hmem
    · exact absurd hmem List.not_mem_nil
    · next hsome =>
      refine ⟨List.mem_singleton.mp hmem, fun hnone => hsome ?_⟩
      simp [Statement.isEmpty, Attachments.linkStatement, hnone]
  rw [order_eq] at h
  rcases hmain : d.main with _ | e | ⟨r, players⟩ <;> simp only [hmain] at h
  · split at h
    · obtain rfl := Except.ok.inj h
      exact absurd hstatement List.not_mem_nil
    · cases h
  · obtain rfl := Except.ok.inj h
    rcases List.mem_cons.mp hstatement with rfl | hmem
    · exact .inl ⟨_, rfl, rfl⟩
    · exact .inr (hlinks hmem)
  · obtain rfl := Except.ok.inj h
    rcases List.mem_cons.mp hstatement with rfl | hmem
    · exact .inl ⟨_, rfl, rfl⟩
    · exact .inr (hlinks hmem)

/-- The statement of a main thing and its helpers can be written. -/
theorem MainThing.writable {main : MainThing} {a : Attachments} (hmain : main.Played)
    (ha : a.Played) : (main.statement ++ a.helperStatement).Writable where
  inserts := by cases main <;> exact List.cons_ne_nil _ _
  played := by
    intro r hr
    have hcases : .relation r ∈ main.statement.things ∨ ∃ h ∈ a.helpers, r = h.relation := by
      rcases List.mem_append.mp hr with hr | hr
      · rcases List.mem_append.mp hr with hr | hr
        · exact .inl (List.mem_append_left _ hr)
        · exact absurd hr List.not_mem_nil
      · rcases List.mem_append.mp hr with hr | hr
        · exact .inl (List.mem_append_right _ hr)
        · obtain ⟨h, hh, heq⟩ := List.mem_flatMap.mp hr
          exact .inr ⟨h, hh, by simpa using heq⟩
    rcases hcases with hr | ⟨h, hh, rfl⟩
    · cases main with
      | entity e => simp [statement, Statement.things] at hr
      | relation main players =>
        obtain rfl : r = main := by simpa [statement, Statement.things] using hr
        exact hmain
    · exact ha.helpers h hh

theorem Attachments.writable_links {a : Attachments} (ha : a.Played) (hsome : a.links ≠ []) :
    a.linkStatement.Writable where
  inserts := by simpa [linkStatement] using hsome
  played := by
    intro r hr
    rcases List.mem_append.mp hr with hr | hr
    · obtain ⟨l, -, hl⟩ := List.mem_flatMap.mp hr
      simp at hl
    · obtain ⟨l, hl, heq⟩ := List.mem_map.mp hr
      obtain rfl := Thing.relation.inj heq
      exact ha.links l hl

/-- All statements of a converted object can be written. -/
theorem convertObject_writable {m : Mapping} {strict : Bool} {object : Members} {c : Conversion}
    (h : convertObject m strict object = .ok c) {statement : Statement}
    (hstatement : statement ∈ c.statements.toList) : statement.Writable := by
  obtain ⟨s, -, h⟩ := convertObject_ok h
  rcases Subject.convert_ok h with ⟨-, rfl⟩ | ⟨_, draft, _, _, _, -, hdraft, horder, rfl⟩
  · exact absurd hstatement List.not_mem_nil
  · obtain ⟨hattachments, hmain⟩ := Subject.draft_played hdraft
    rcases Draft.mem_order horder hstatement with ⟨main, hsome, rfl⟩ | ⟨rfl, hlinks⟩
    · exact MainThing.writable (hmain main hsome) hattachments
    · exact Attachments.writable_links hattachments hlinks

namespace Collection

theorem ofObject_writable {m : Mapping} {strict : Bool} {object : Members}
    {slot : String × List Statement} (hslot : slot ∈ (ofObject m strict object).slots)
    {statement : Statement} (hstatement : statement ∈ slot.2) : statement.Writable := by
  unfold ofObject at hslot
  split at hslot
  · next c hc =>
    refine convertObject_writable hc ?_
    simp only [slots, List.mem_cons, List.not_mem_nil, or_false] at hslot
    simp only [OrderedStatements.toList, List.mem_append]
    rcases hslot with rfl | rfl | rfl
    · exact .inl (.inl hstatement)
    · exact .inl (.inr hstatement)
    · exact .inr hstatement
  · simp only [slots, List.mem_cons, List.not_mem_nil, or_false] at hslot
    rcases hslot with rfl | rfl | rfl <;> exact absurd hstatement List.not_mem_nil

/-- All statements of all slots have a text. -/
theorem writable (m : Mapping) (strict : Bool) (objects : List Members)
    {slot : String × List Statement} (hslot : slot ∈ (ofObjects m strict objects).slots)
    {statement : Statement} (hstatement : statement ∈ slot.2) : statement.Writable := by
  obtain ⟨hentities, hrelations, hembedded⟩ := ofObjects_eq m strict objects
  simp only [slots, hentities, hrelations, hembedded, List.mem_cons, List.not_mem_nil, or_false]
    at hslot
  rcases hslot with rfl | rfl | rfl
  · obtain ⟨object, -, hmem⟩ := List.mem_flatMap.mp hstatement
    exact ofObject_writable List.mem_cons_self hmem
  · obtain ⟨object, -, hmem⟩ := List.mem_flatMap.mp hstatement
    exact ofObject_writable (List.mem_cons_of_mem _ List.mem_cons_self) hmem
  · obtain ⟨object, -, hmem⟩ := List.mem_flatMap.mp hstatement
    exact ofObject_writable
      (List.mem_cons_of_mem _ (List.mem_cons_of_mem _ List.mem_cons_self)) hmem

end Collection

/-! ## Summaries that cover all statements -/

/-- The summary is of so many statements, each of which was inserted or was rejected for a reason
that is reported. -/
structure LoadSummary.Covers (summary : LoadSummary) (count : Nat) : Prop where
  statements : summary.statements = count
  reported : summary.rejected = summary.errors.length
  total : summary.inserted + summary.rejected = count

theorem LoadSummary.Covers.append {a b : LoadSummary} {m n : Nat} (ha : a.Covers m)
    (hb : b.Covers n) : (a ++ b).Covers (m + n) where
  statements := congrArg₂ (· + ·) ha.statements hb.statements
  reported := by
    change a.rejected + b.rejected = (a.errors ++ b.errors).length
    rw [List.length_append, ha.reported, hb.reported]
  total := by
    change a.inserted + b.inserted + (a.rejected + b.rejected) = m + n
    rw [← ha.total, ← hb.total]
    omega

namespace Loader

variable {σ : Type} (store : Store σ)

/-- A load covers all statements that it is given, whatever the store answers. -/
theorem load_covers (size : Nat) (texts : List String) (s : σ) :
    (load store (ofSize size) texts s).1.Covers texts.length := by
  obtain ⟨hflatten, hbounded, -⟩ := batchesOf_spec (ofSize size).batchSize_pos texts
  obtain ⟨log, hrun, haccounts, -⟩ := loadBatches_accounts store hbounded s []
  rw [hflatten] at haccounts
  rw [load]
  generalize loadBatches store (batchesOf (ofSize size).batchSize texts) s = result at haccounts ⊢
  obtain ⟨part, u⟩ := result
  have hsettled := (haccounts.settles.perm_range 0).length_eq
  rw [List.length_append, List.length_range', haccounts.settles.length_takenAt,
    haccounts.settles.length_refusedAt, ← haccounts.inserted, ← haccounts.errors,
    ← haccounts.rejected] at hsettled
  refine ⟨?_, ?_, ?_⟩
  · change texts.length + part.statements = texts.length
    rw [haccounts.statements, Nat.add_zero]
  · change 0 + part.rejected = part.errors.length
    rw [Nat.zero_add, haccounts.rejected]
  · change 0 + part.inserted + (0 + part.rejected) = texts.length
    rw [Nat.zero_add, Nat.zero_add, hsettled]

/-- Statements that have a text are all sent to the store. -/
theorem loadStatements_covers (size : Nat) {statements : List Statement}
    (h : ∀ statement ∈ statements, statement.Writable) (s : σ) :
    (loadStatements store (ofSize size) statements s).1.Covers statements.length := by
  have htexts : (textsOf statements).length = statements.length := by
    rw [textsOf, List.length_filterMap_eq_countP, List.countP_eq_length]
    intro statement hstatement
    obtain ⟨text, htext, hsome⟩ := (h statement hstatement).text
    simp [htext, Except.toOption, hsome]
  have hunwritable : unwritable statements = 0 := by
    rw [unwritable, List.countP_eq_zero]
    intro statement hstatement
    obtain ⟨text, htext, -⟩ := (h statement hstatement).text
    simp [htext, Except.toOption]
  have hload := load_covers store size (textsOf statements) s
  rw [htexts] at hload
  have hnone : LoadSummary.Covers { statements := 0, rejected := 0 } 0 := ⟨rfl, rfl, rfl⟩
  rw [loadStatements, hunwritable]
  exact hload.append hnone

/-- **Whatever is converted is loaded or rejected.** Every statement that objects are converted to
has a text, whatever the mapping and the objects. So the summary of a load is of all of them, in
batches of any size and whatever the store answers: each was inserted, or was rejected for a reason
that is reported. -/
theorem loadCollection_covers (size : Nat) (m : Mapping) (strict : Bool) (objects : List Members)
    (s : σ) :
    let collection := Collection.ofObjects m strict objects
    let summary := (loadCollection store (ofSize size) collection s).1
    (∀ slot ∈ collection.slots, ∀ statement ∈ slot.2,
        ∃ text, statement.text = .ok text ∧ text ≠ "") ∧
      summary.statements = collection.statementCount ∧
      collection.statementCount = (collection.slots.map fun slot => slot.2.length).sum ∧
      summary.rejected = summary.errors.length ∧
      summary.inserted + summary.rejected = summary.statements := by
  intro collection summary
  have hwritable : ∀ slot ∈ collection.slots, ∀ statement ∈ slot.2, statement.Writable :=
    fun _ hslot _ hstatement => Collection.writable m strict objects hslot hstatement
  have hslots : collection.slots =
      [("entities", collection.entities), ("relations", collection.relations),
        ("embedded relations", collection.embedded)] := rfl
  rw [hslots, List.forall_mem_cons, List.forall_mem_cons, List.forall_mem_singleton] at hwritable
  obtain ⟨hentities, hrelations, hembedded⟩ := hwritable
  have hcovers : summary.Covers collection.statementCount :=
    ((loadStatements_covers store size hentities _).append
      (loadStatements_covers store size hrelations _)).append
        (loadStatements_covers store size hembedded _)
  refine ⟨fun slot hslot statement hstatement =>
      (Collection.writable m strict objects hslot hstatement).text, hcovers.statements, ?_,
    hcovers.reported, hcovers.total.trans hcovers.statements.symm⟩
  rw [hslots, Collection.statementCount]
  simp [Nat.add_assoc]

end Loader

end ThreatGraph
