import Mathlib.Data.List.Perm.Subperm
import ThreatGraph.Proofs.Construction
import ThreatGraph.Proofs.Tables

/-!
# When things are equal

Equality of multimaps and of things is a computation that goes through one of them and looks up the
other. On things that were built step by step, where no name stands twice and none stands without
texts, it comes to the same as comparing what it sees of them (`Thing.beq_iff`): the type, the
values of each attribute, and which roles there are. This aspect has neither variables nor an order
of names, so the laws of equality follow from that (`Thing.equality_lawful`).

What it does not have either is how many play a role. Equal relations insert the same data if every
role has a single player, but a role with two players is as good as a role with one
(`Relation.equal_inserts`, `Relation.equal_inserts_less`).
-/

namespace ThreatGraph

/-! ## Multimaps -/

namespace Multimap

variable {m m' : Multimap}

/-- Where no name stands twice, equally many names of which all are in the other multimap are the
names of the other multimap. -/
theorem names_iff (h : (Table.names m).Nodup) (h' : (Table.names m').Nodup) :
    (m.length = m'.length ∧ Table.names m ⊆ Table.names m') ↔
      ∀ name, name ∈ Table.names m ↔ name ∈ Table.names m' := by
  have hlength (n : Multimap) : n.length = (Table.names n).length := (List.length_map _).symm
  rw [hlength m, hlength m']
  constructor
  · rintro ⟨hlength, hsub⟩ name
    exact ((List.subperm_of_subset h hsub).perm_of_length_le (Nat.le_of_eq hlength.symm)).mem_iff
  · intro hnames
    have hperm := (List.perm_ext_iff_of_nodup h h').mpr hnames
    exact ⟨hperm.length_eq, hperm.subset⟩

/-- Two multimaps have the same names exactly if each name of one is one of the other. -/
theorem sameNames_iff (h : (Table.names m).Nodup) (h' : (Table.names m').Nodup) :
    m.sameNames m' = true ↔ ∀ name, name ∈ Table.names m ↔ name ∈ Table.names m' := by
  rw [← names_iff h h', sameNames, Bool.and_eq_true, beq_iff_eq, List.all_eq_true]
  simp only [Table.contains_iff, Table.names, List.subset_def, List.forall_mem_map]

/-- Multimaps agree if every look-up does. -/
theorem agrees_iff (h : (Table.names m).Nodup) (h' : (Table.names m').Nodup) :
    m.agrees m' = true ↔ ∀ name, m.get? name = m'.get? name := by
  rw [agrees, Bool.and_eq_true, beq_iff_eq, List.all_eq_true]
  constructor
  · rintro ⟨hlength, hentries⟩ name
    have hfound {name : String} {texts : List String} (hmem : (name, texts) ∈ m) :
        m'.get? name = some texts := beq_iff_eq.mp (hentries _ hmem)
    have hnames := (names_iff h h').mp ⟨hlength, fun name hname => by
      obtain ⟨texts, hmem⟩ := Table.mem_names_iff.mp hname
      exact Table.mem_names_iff.mpr ⟨texts, Table.mem_of_get? (hfound hmem)⟩⟩
    by_cases hname : name ∈ Table.names m
    · obtain ⟨texts, hmem⟩ := Table.mem_names_iff.mp hname
      rw [hfound hmem]
      exact (Table.get?_eq_some_iff h).mpr hmem
    · have hnone {n : Multimap} (hn : name ∉ Table.names n) : n.get? name = none :=
        Option.not_isSome_iff_eq_none.mp fun hsome => hn (Table.isSome_get?_iff.mp hsome)
      rw [hnone hname, hnone fun hname' => hname ((hnames name).mpr hname')]
  · intro hget
    have hnames : ∀ name, name ∈ Table.names m ↔ name ∈ Table.names m' := by
      intro name
      rw [← Table.isSome_get?_iff, ← Table.isSome_get?_iff]
      exact iff_of_eq (congrArg (fun found => Option.isSome found = true) (hget name))
    refine ⟨((names_iff h h').mpr hnames).1, fun entry hentry => ?_⟩
    rw [beq_iff_eq, ← hget]
    exact (Table.get?_eq_some_iff h).mpr hentry

/-- Which names two multimaps have is all that comparing their names depends on. -/
theorem sameNames_congr {n n' : Multimap} (h : Table.names m = Table.names n)
    (h' : Table.names m' = Table.names n') : m.sameNames m' = n.sameNames n' := by
  have hnames (a b : Multimap) : a.sameNames b =
      ((Table.names a).length == (Table.names b).length &&
        (Table.names a).all fun name => decide (name ∈ Table.names b)) := by
    have hcontains name : Table.contains b name = decide (name ∈ Table.names b) :=
      Bool.eq_iff_iff.mpr (Table.contains_iff.trans decide_eq_true_iff.symm)
    simp only [sameNames, hcontains, Table.names, List.length_map, List.all_map]
    rfl
  rw [hnames, hnames, h, h']

end Multimap

/-! ## What equality sees -/

/-- What equality sees of a thing. -/
@[ext]
structure Aspect where
  /-- the type -/
  typeName : String
  /-- the values of each attribute -/
  values : String → Option (List String)
  /-- the roles of a relation -/
  roles : Option (String → Prop)

namespace Aspect

/-- The aspect with one more attribute value. -/
def addAttribute (c : Aspect) (name value : String) : Aspect :=
  if name.isEmpty || value.isEmpty then c
  else
    { c with
      values := fun other =>
        if name = other then some ((c.values name).getD [] ++ [value]) else c.values other }

theorem typeName_addAttribute (c : Aspect) (name value : String) :
    (c.addAttribute name value).typeName = c.typeName := by
  rw [addAttribute]
  split <;> rfl

/-- A value that is added comes last of its attribute, unless the name or the value is empty. -/
theorem values_addAttribute (c : Aspect) (name value other : String) :
    (c.addAttribute name value).values other =
      if name.isEmpty || value.isEmpty then c.values other
      else if name = other then some ((c.values name).getD [] ++ [value]) else c.values other := by
  rw [addAttribute]
  split <;> rfl

theorem roles_addAttribute (c : Aspect) (name value : String) :
    (c.addAttribute name value).roles = c.roles := by
  rw [addAttribute]
  split <;> rfl

/-- The aspect in which someone plays the role. -/
def addRole (c : Aspect) (role : String) : Aspect :=
  { c with roles := c.roles.map fun roles other => roles other ∨ other = role }

end Aspect

/-- What equality sees of an entity. -/
def Entity.aspect (e : Entity) : Aspect := ⟨e.typeName, e.attributes.get?, none⟩

/-- What equality sees of a relation. -/
def Relation.aspect (r : Relation) : Aspect :=
  ⟨r.typeName, r.attributes.get?, some fun role => role ∈ Table.names r.roles⟩

/-- What equality sees of a thing of either kind. -/
def Thing.aspect : Thing → Aspect
  | .entity e => e.aspect
  | .relation r => r.aspect

/-- Entities that were built are equal exactly if equality sees the same of both. -/
theorem Entity.beq_iff {e e' : Entity} (h : e.Built) (h' : e'.Built) :
    (e == e') = true ↔ e.aspect = e'.aspect := by
  change (e.typeName == e'.typeName && e.attributes.agrees e'.attributes) = true ↔ _
  rw [Bool.and_eq_true, beq_iff_eq, Multimap.agrees_iff h.proper.distinct h'.proper.distinct]
  simp only [aspect, Aspect.mk.injEq, and_true, funext_iff]

theorem Relation.beq_iff {r r' : Relation} (h : r.Built) (h' : r'.Built) :
    (r == r') = true ↔ r.aspect = r'.aspect := by
  change (r.typeName == r'.typeName && r.attributes.agrees r'.attributes &&
    r.roles.sameNames r'.roles) = true ↔ _
  rw [Bool.and_eq_true, Bool.and_eq_true, beq_iff_eq,
    Multimap.agrees_iff h.proper.1.distinct h'.proper.1.distinct,
    Multimap.sameNames_iff h.proper.2.distinct h'.proper.2.distinct]
  simp only [aspect, Aspect.mk.injEq, Option.some.injEq, funext_iff, eq_iff_iff, and_assoc]

theorem Thing.beq_iff {t t' : Thing} (h : t.Built) (h' : t'.Built) :
    (t == t') = true ↔ t.aspect = t'.aspect := by
  cases h with
  | entity he =>
    cases h' with
    | entity he' => exact Entity.beq_iff he he'
    | relation => exact iff_of_false nofun fun h => nomatch congrArg Aspect.roles h
  | relation hr =>
    cases h' with
    | entity => exact iff_of_false nofun fun h => nomatch congrArg Aspect.roles h
    | relation hr' => exact Relation.beq_iff hr hr'

/-- What is found after a value was added is what was there, with the value behind it if it is asked
for. -/
theorem Attributes.get?_add (a : Attributes) (name value other : String) :
    Multimap.get? (a.add name value) other =
      if name.isEmpty || value.isEmpty then a.get? other
      else if name = other then some ((a.get? name).getD [] ++ [value]) else a.get? other := by
  rw [add]
  split
  · rfl
  · exact Multimap.get?_add a name other value

/-- The aspect of a thing with one more attribute value depends on nothing but its aspect. -/
theorem Thing.aspect_addAttribute (t : Thing) (name value : String) :
    (t.addAttribute name value).aspect = t.aspect.addAttribute name value := by
  cases t with
  | entity e =>
    refine Aspect.ext (e.aspect.typeName_addAttribute name value).symm (funext fun other => ?_)
      (e.aspect.roles_addAttribute name value).symm
    rw [Aspect.values_addAttribute]
    exact Attributes.get?_add e.attributes name value other
  | relation r =>
    refine Aspect.ext (r.aspect.typeName_addAttribute name value).symm (funext fun other => ?_)
      (r.aspect.roles_addAttribute name value).symm
    rw [Aspect.values_addAttribute]
    exact Attributes.get?_add r.attributes name value other

/-- The aspect of a relation with one more player depends on nothing but its aspect and the role. -/
theorem Relation.aspect_addPlayer (r : Relation) (role player : String) :
    (r.addPlayer role player).aspect = r.aspect.addRole role := by
  refine Aspect.ext rfl rfl (congrArg some (funext fun other => propext ?_))
  change other ∈ Table.names (r.roles.add role player) ↔ other ∈ Table.names r.roles ∨ other = role
  rw [Multimap.names_add]
  split
  · next hrole => exact ⟨.inl, fun h => h.elim id fun heq => heq ▸ hrole⟩
  · rw [List.mem_append, List.mem_singleton]

/-! ## The laws of equality -/

/-- Equality is an equivalence among the things of which `P` holds. -/
structure EquivalenceAmong {α : Type} [BEq α] (P : α → Prop) : Prop where
  refl {a : α} : P a → (a == a) = true
  symm {a b : α} : P a → P b → (a == b) = true → (b == a) = true
  trans {a b c : α} : P a → P b → P c → (a == b) = true → (b == c) = true → (a == c) = true

/-- Comparing an aspect is an equivalence. -/
theorem EquivalenceAmong.of_aspect {α β : Type} [BEq α] {P : α → Prop} (aspect : α → β)
    (h : ∀ {a b}, P a → P b → ((a == b) = true ↔ aspect a = aspect b)) : EquivalenceAmong P where
  refl ha := (h ha ha).mpr rfl
  symm ha hb hab := (h hb ha).mpr ((h ha hb).mp hab).symm
  trans ha hb hc hab hbc := (h ha hc).mpr (((h ha hb).mp hab).trans ((h hb hc).mp hbc))

/-- Both things are the same but for their variables and those of their players. -/
inductive Thing.Recast : Thing → Thing → Prop
  | entity (e : Entity) (var : String) : Recast (.entity e) (.entity { e with var })
  | relation (r : Relation) (var : String) {roles : Multimap} :
    List.Forall₂ (fun entry entry' => entry'.1 = entry.1 ∧ entry'.2.length = entry.2.length)
      r.roles roles → Recast (.relation r) (.relation { r with var, roles })

/-- Recasting changes who plays a role, and how its players are called, but no role. -/
theorem Multimap.names_recast {m m' : Multimap}
    (h : List.Forall₂ (fun entry entry' => entry'.1 = entry.1 ∧ entry'.2.length = entry.2.length)
      m m') : Table.names m' = Table.names m := by
  induction h with
  | nil => rfl
  | cons hentry _ ih => rw [Table.names, List.map_cons, hentry.1, ← Table.names, ih]; rfl

/-- Equality does not see variables. -/
theorem Thing.Recast.beq_eq {a a' b b' : Thing} (ha : a.Recast a') (hb : b.Recast b') :
    (a' == b') = (a == b) := by
  cases ha with
  | entity e var =>
    cases hb with
    | entity e' var' => rfl
    | relation => rfl
  | relation r var hroles =>
    cases hb with
    | entity => rfl
    | relation r' var' hroles' =>
      have hnames := Multimap.sameNames_congr (Multimap.names_recast hroles)
        (Multimap.names_recast hroles')
      exact congrArg
        (fun same => (r.typeName == r'.typeName && r.attributes.agrees r'.attributes) && same)
        hnames

/-- The attributes of pairs of a name and a value that are added one after the other. -/
def Attributes.ofPairs (pairs : List (String × String)) : Attributes :=
  pairs.foldl (fun a pair => a.add pair.1 pair.2) []

namespace Attributes

variable {pairs pairs' : List (String × String)}

/-- Pairs without a name or without a value are passed over. -/
theorem ofPairs_eq (pairs : List (String × String)) :
    ofPairs pairs =
      Multimap.ofPairs (pairs.filter fun pair => !(pair.1.isEmpty || pair.2.isEmpty)) := by
  rw [ofPairs, Multimap.ofPairs, List.foldl_filter]
  congr 1
  funext a pair
  rw [add]
  cases pair.1.isEmpty || pair.2.isEmpty <;> rfl

/-- Attributes that were filed agree exactly if the same values are found for every name. -/
theorem ofPairs_agrees_iff :
    Multimap.agrees (ofPairs pairs) (ofPairs pairs') = true ↔
      ∀ name, (ofPairs pairs).get? name = (ofPairs pairs').get? name := by
  simp only [ofPairs_eq]
  exact Multimap.agrees_iff (Multimap.proper_ofPairs _).distinct
    (Multimap.proper_ofPairs _).distinct

/-- The pairs of each name in their order are all that counts. -/
theorem ofPairs_agrees (h : ∀ name,
    (pairs.filter fun pair => pair.1 = name) = pairs'.filter fun pair => pair.1 = name) :
    Multimap.agrees (ofPairs pairs) (ofPairs pairs') = true := by
  rw [ofPairs_agrees_iff]
  intro name
  rw [ofPairs_eq, ofPairs_eq]
  refine (Multimap.get?_ofPairs _ name).trans (.trans ?_ (Multimap.get?_ofPairs _ name).symm)
  rw [List.filter_comm, h name, List.filter_comm]

end Attributes

/-- What was built stays so with one more attribute. -/
theorem Thing.Built.addAttribute {t : Thing} (h : t.Built) (name value : String) :
    (t.addAttribute name value).Built := by
  cases h with
  | entity h => exact .entity (h.addAttribute name value)
  | relation h => exact .relation (h.addAttribute name value)

/-- What is expected of equality. -/
structure Thing.EqualityLaws : Prop where
  /-- it is an equivalence among the entities that can be built -/
  entities : EquivalenceAmong Entity.Built
  /-- it is an equivalence among the relations that can be built -/
  relations : EquivalenceAmong Relation.Built
  /-- it is an equivalence among the things that can be built -/
  things : EquivalenceAmong Thing.Built
  /-- it makes no difference which variables things and their players have -/
  recast {a a' b b' : Thing} : a.Recast a' → b.Recast b' → (a' == b') = (a == b)
  /-- attributes are equal exactly if every look-up is -/
  attributes (pairs pairs' : List (String × String)) :
    Multimap.agrees (Attributes.ofPairs pairs) (Attributes.ofPairs pairs') = true ↔
      ∀ name, (Attributes.ofPairs pairs).get? name = (Attributes.ofPairs pairs').get? name
  /-- it makes no difference in which order different names are added -/
  reordered {pairs pairs' : List (String × String)} :
    (∀ name, (pairs.filter fun pair => pair.1 = name) = pairs'.filter fun pair => pair.1 = name) →
      Multimap.agrees (Attributes.ofPairs pairs) (Attributes.ofPairs pairs') = true
  /-- equal things with the same attribute value added are equal -/
  addAttribute {a b : Thing} (name value : String) : a.Built → b.Built → (a == b) = true →
    (a.addAttribute name value == b.addAttribute name value) = true
  /-- equal relations with a player of the same role added are equal -/
  addPlayer {r r' : Relation} (role player player' : String) : r.Built → r'.Built →
    (r == r') = true → (r.addPlayer role player == r'.addPlayer role player') = true

/-- **Equality is lawful.** Among the entities, relations and things that can be built, equality is
an equivalence. It sees neither variables nor the order in which names were added, and whatever is
added to equal things, they stay equal. -/
theorem Thing.equality_lawful : Thing.EqualityLaws where
  entities := .of_aspect Entity.aspect Entity.beq_iff
  relations := .of_aspect Relation.aspect Relation.beq_iff
  things := .of_aspect Thing.aspect Thing.beq_iff
  recast := Thing.Recast.beq_eq
  attributes _ _ := Attributes.ofPairs_agrees_iff
  reordered := Attributes.ofPairs_agrees
  addAttribute name value ha hb hab := by
    rw [Thing.beq_iff (ha.addAttribute name value) (hb.addAttribute name value),
      Thing.aspect_addAttribute, Thing.aspect_addAttribute, (Thing.beq_iff ha hb).mp hab]
  addPlayer role player player' hr hr' heq := by
    rw [Relation.beq_iff (hr.addPlayer role player) (hr'.addPlayer role player'),
      Relation.aspect_addPlayer, Relation.aspect_addPlayer, (Relation.beq_iff hr hr').mp heq]

/-- Attributes are filed under their names, whatever comes first, and then stay equal. -/
theorem Thing.equality_lawful_malware :
    let e : Entity := (Entity.addAttribute ⟨"v1", "malware", []⟩ "name" "1").addAttribute "kind" "2"
    let e' : Entity :=
      (Entity.addAttribute ⟨"v9", "malware", []⟩ "kind" "2").addAttribute "name" "1"
    e.Built ∧ e'.Built ∧ (e == e') = true ∧ (e' == e) = true ∧
      ((Thing.entity e).addAttribute "kind" "3" == (Thing.entity e').addAttribute "kind" "3") =
        true := by
  intro e e'
  have he : e.Built := .addAttribute _ _ (.addAttribute _ _ (.new _ _))
  have he' : e'.Built := .addAttribute _ _ (.addAttribute _ _ (.new _ _))
  have heq : (e == e') = true := by decide
  exact ⟨he, he', heq, equality_lawful.entities.symm he he' heq,
    equality_lawful.addAttribute "kind" "3" (.entity he) (.entity he') heq⟩

/-! ## Data that are inserted -/

namespace Relation

variable {r r' : Relation}

/-- Both relations insert the same data: a relation of the same type, with the same attribute
values, in which equally many play each role. -/
structure InsertsSame (r r' : Relation) : Prop where
  typeName : r.typeName = r'.typeName
  attributes (name : String) : r.attributes.get? name = r'.attributes.get? name
  players (role : String) : r.playerCount role = r'.playerCount role

/-- A role of a relation has a player. -/
theorem Built.playerCount_pos_iff (h : r.Built) {role : String} :
    0 < r.playerCount role ↔ role ∈ Table.names r.roles := by
  rw [← Table.isSome_get?_iff, playerCount, players?, Multimap.get?]
  cases hget : Table.get? r.roles role with
  | none => simp
  | some players =>
    have hplayers : players ≠ [] := h.proper.2.filed _ (Table.mem_of_get? hget)
    simpa [List.length_pos_iff] using hplayers

/-- In a relation whose roles have single players, the same goes for roles that it does not have. -/
theorem playerCount_le_one (h : ∀ entry ∈ r.roles, entry.2.length ≤ 1) (role : String) :
    r.playerCount role ≤ 1 := by
  rw [playerCount, players?, Multimap.get?]
  cases hget : Table.get? r.roles role with
  | none => exact Nat.zero_le 1
  | some players => exact h _ (Table.mem_of_get? hget)

/-- **Equal relations insert the same data if their roles have single players.** Relations are equal
exactly if they have the same type, the same attribute values, and players for the same roles. Where
nobody shares a role, that is the same as inserting the same data. -/
theorem equal_inserts (hr : r.Built) (hr' : r'.Built) :
    ((r == r') = true ↔
      r.typeName = r'.typeName ∧
        (∀ name, r.attributes.get? name = r'.attributes.get? name) ∧
        ∀ role, 0 < r.playerCount role ↔ 0 < r'.playerCount role) ∧
    ((∀ role, r.playerCount role ≤ 1) → (∀ role, r'.playerCount role ≤ 1) →
      ((r == r') = true ↔ r.InsertsSame r')) := by
  have hequal : (r == r') = true ↔
      r.typeName = r'.typeName ∧
        (∀ name, r.attributes.get? name = r'.attributes.get? name) ∧
        ∀ role, 0 < r.playerCount role ↔ 0 < r'.playerCount role := by
    rw [beq_iff hr hr']
    simp only [aspect, Aspect.mk.injEq, Option.some.injEq, funext_iff, eq_iff_iff,
      hr.playerCount_pos_iff, hr'.playerCount_pos_iff]
  refine ⟨hequal, fun hsingle hsingle' => hequal.trans ⟨?_, ?_⟩⟩
  · rintro ⟨htype, hattributes, hroles⟩
    refine ⟨htype, hattributes, fun role => ?_⟩
    have hrole := hroles role
    have hle := hsingle role
    have hle' := hsingle' role
    omega
  · rintro ⟨htype, hattributes, hplayers⟩
    exact ⟨htype, hattributes, fun role => by rw [hplayers role]⟩

/-- The players of two roles, in either order. -/
theorem equal_inserts_uses :
    let r := (Relation.addPlayer ⟨"v0", "uses", [], []⟩ "user" "v1").addPlayer "used" "v2"
    let r' := (Relation.addPlayer ⟨"v5", "uses", [], []⟩ "used" "v7").addPlayer "user" "v6"
    r.Built ∧ r'.Built ∧ (∀ role, r.playerCount role ≤ 1) ∧ (∀ role, r'.playerCount role ≤ 1) ∧
      (r == r') = true ∧ r.InsertsSame r' := by
  intro r r'
  have hr : r.Built := .addPlayer _ _ (.addPlayer _ _ (.new _ _))
  have hr' : r'.Built := .addPlayer _ _ (.addPlayer _ _ (.new _ _))
  have hsingle := playerCount_le_one (r := r) (by decide)
  have hsingle' := playerCount_le_one (r := r') (by decide)
  have heq : (r == r') = true := by decide
  exact ⟨hr, hr', hsingle, hsingle', heq, ((equal_inserts hr hr').2 hsingle hsingle').mp heq⟩

/-- Equal relations need not insert the same data: a sighting at two places is equal to one at a
single place. -/
theorem equal_inserts_less :
    ¬ ∀ r r' : Relation, r.Built → r'.Built → (r == r') = true → r.InsertsSame r' := by
  intro h
  have hsame := h
    ((Relation.addPlayer ⟨"v0", "sighting", [], []⟩ "place" "v1").addPlayer "place" "v2")
    (Relation.addPlayer ⟨"v0", "sighting", [], []⟩ "place" "v1")
    (.addPlayer _ _ (.addPlayer _ _ (.new _ _))) (.addPlayer _ _ (.new _ _)) (by decide)
  exact absurd (hsame.players "place") (by decide)

end Relation

end ThreatGraph
