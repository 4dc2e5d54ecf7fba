import ThreatGraph.Proofs.Consistency
import ThreatGraph.Proofs.Processing
import ThreatGraph.Proofs.Wording

/-!
# Role players

A relationship is stored as a relation between the objects that its role-player properties name.
These objects are known beforehand (`Subject.named`): the properties in order of their characters,
each with the identifier that it holds or those in its list. The statement matches exactly these,
one by one, and the roles of the relation are played by what was matched, each role by those that
were named by the properties that have it (`convertObject_casts`). An object that is named twice
is matched twice, and a role that no property has is not there.
-/

namespace ThreatGraph

open Naming

/-! ## Objects that are matched -/

/-- The entity matches the object of an identifier: by the type of the objects whose identifiers
begin like it, and by the identifier, which is its only attribute. -/
structure Mapping.Refers (m : Mapping) (id : String) (e : Entity) : Prop where
  typed : ∃ stixType, Stix.typeOfId? id = some stixType ∧ m.supertype stixType = .ok e.typeName
  attributes : e.attributes = [(idAttribute, [quote id])]

/-- An object is matched by its identifier alone. -/
theorem Entity.attributes_matching (n : Nat) (typeName id : String) :
    (Entity.matching n typeName id).attributes = [(idAttribute, [quote id])] := by
  have hquote : (quote id).isEmpty = false := by
    rw [Bool.eq_false_iff, ne_eq, String.isEmpty_iff]
    exact (isValue_quote id).ne_empty
  have hname : idAttribute.isEmpty = false := by decide
  simp only [matching, addAttribute, Attributes.add, hquote, hname]
  rfl

/-- So it refers to the object that has this identifier, by the supertype of its type. -/
theorem Mapping.refers_matching {m : Mapping} {id stixType typeName : String}
    (htype : Stix.typeOfId? id = some stixType) (hsupertype : m.supertype stixType = .ok typeName)
    (n : Nat) : m.Refers id (.matching n typeName id) where
  typed := ⟨stixType, htype, hsupertype⟩
  attributes := Entity.attributes_matching n typeName id

/-! ## Objects that are named -/

/-- The identifiers in a value: the value itself, or the texts of a list. -/
def Json.identifiers : Json → List String
  | .string id => [id]
  | .array items => items.filterMap Json.text?
  | _ => []

namespace Subject

variable {s : Subject} {typeName : String} {v w : Variables}

/-- The objects that properties name, in order, each after the property that names it. A property
that the object does not have names none. -/
def namedBy (s : Subject) (properties : List String) : List (String × String) :=
  properties.flatMap fun property =>
    ((s.object.get? property).elim [] Json.identifiers).map fun id => (property, id)

/-- The objects that are named as role players. -/
def named (s : Subject) : List (String × String) := s.namedBy s.roleplayers

/-- `s.Plays typeName n p`: the object that is named by `n` is matched by the entity `p.2`, which
plays the role `p.1` in relations of the type. -/
structure Plays (s : Subject) (typeName : String) (n : String × String) (p : String × Entity) :
    Prop where
  role : s.mapping.role? typeName n.1 = some p.1
  refers : s.mapping.Refers n.2 p.2

/-- The texts of a list are all its items if all are texts. -/
theorem filterMap_of_allTexts? {items : List Json} {ids : List String}
    (h : allTexts? items = some ids) : items.filterMap Json.text? = ids := by
  induction items generalizing ids with
  | nil => exact Option.some.inj h
  | cons item rest ih =>
    rw [allTexts?] at h
    obtain ⟨text, htext, h⟩ := Option.bind_eq_some_iff.mp h
    obtain ⟨texts, htexts, h⟩ := Option.bind_eq_some_iff.mp h
    obtain rfl := Option.some.inj h
    rw [List.filterMap_cons, htext, ih htexts]

/-- Objects are matched one by one, in the order of their identifiers. -/
theorem matchIds_refers {property : String} {ids : List String} {entities : List Entity}
    (h : (s.matchIds property ids).outcome v = (.ok entities, w)) :
    List.Forall₂ s.mapping.Refers ids entities := by
  induction ids generalizing v entities with
  | nil =>
    obtain ⟨rfl, -⟩ := pure_eq_ok.mp h
    exact .nil
  | cons id rest ih =>
    obtain ⟨stixType, supertype, others, htype, hsupertype, hothers, rfl⟩ := matchIds_cons_ok h
    apply List.Forall₂.cons _ (ih hothers)
    exact Mapping.refers_matching htype hsupertype v.issued

/-- The role players are the objects that are named, one by one. -/
theorem players_plays {properties : List String} {players : List (String × Entity)}
    (h : (s.players typeName properties).outcome v = (.ok players, w)) :
    List.Forall₂ (s.Plays typeName) (s.namedBy properties) players := by
  induction properties generalizing v players with
  | nil =>
    obtain ⟨rfl, -⟩ := pure_eq_ok.mp h
    exact .nil
  | cons property rest ih =>
    rw [namedBy, List.flatMap_cons]
    rcases players_cons_ok h with ⟨hnone, hrest⟩ |
      ⟨raw, ids, role, entities, others, u, hraw, hids, hrole, hentities, hothers, rfl⟩
    · rw [hnone]
      exact ih hrest
    · have hidentifiers : raw.identifiers = ids := by
        obtain ⟨hshape, -⟩ := roleplayerIds_ok hids
        rcases hshape with ⟨id, rfl, rfl⟩ | ⟨items, rfl, htexts⟩
        · rfl
        · exact filterMap_of_allTexts? htexts
      rw [hraw, Option.elim_some, hidentifiers]
      apply List.rel_append _ (ih hothers)
      -- the identifiers of one property, matched one by one under its role
      rw [List.forall₂_map_left_iff, List.forall₂_map_right_iff]
      apply (matchIds_refers hentities).imp
      intro id e hrefers
      exact ⟨Mapping.found_eq_ok.mp hrole, hrefers⟩

/-! ## Roles -/

/-- The statement matches the objects that are named, and what it inserts first is a relation of
the type in which they play their roles. -/
structure Casts (s : Subject) (typeName : String) (t : Statement) (r : Relation) : Prop where
  /-- each object that is named is matched, and nothing else is -/
  matched : List.Forall₂ (fun n thing => ∃ e, thing = .entity e ∧ s.mapping.Refers n.2 e)
    s.named t.matched
  inserted : t.inserted.head? = some (.relation r)
  ofType : r.typeName = typeName
  /-- a role is there once, and somebody plays it -/
  proper : Multimap.Proper r.roles
  /-- a role is played by the objects whose properties have it, in order -/
  players : ∀ role, r.players? role =
    Multimap.filed? (((s.named.zip t.matched).filter fun x =>
      s.mapping.role? typeName x.1.1 = some role).map fun x => x.2.var)

/-- The players of a role are those that were matched for properties that have the role. -/
theorem players_of_role {named : List (String × String)} {players : List (String × Entity)}
    (h : List.Forall₂ (s.Plays typeName) named players) (role : String) :
    ((players.map fun p => (p.1, p.2.var)).filter fun pair => pair.1 = role).map Prod.snd =
      ((named.zip (players.map fun p => Thing.entity p.2)).filter fun x =>
        s.mapping.role? typeName x.1.1 = some role).map fun x => x.2.var := by
  induction h with
  | nil => rfl
  | @cons n p named players hplays _ ih =>
    rw [List.map_cons, List.map_cons, List.zip_cons_cons, List.filter_cons, List.filter_cons]
    simp only [hplays.role, Option.some_inj]
    split
    · rw [List.map_cons, List.map_cons, ih]
      rfl
    · exact ih

/-- The relation that stands for an object casts the players that were matched for it. -/
theorem casts_mainRelation {players : List (String × Entity)}
    (h : List.Forall₂ (s.Plays typeName) s.named players)
    (attributes : List (String × List String)) (a : Attachments) :
    ∃ r, s.Casts typeName
      ((s.mainRelation 0 typeName players attributes).statement ++ a.helperStatement) r := by
  rw [mainRelation_eq]
  -- helpers match nothing
  have hmatched : (players.map Prod.snd).map Thing.entity ++ [] =
      players.map fun p => Thing.entity p.2 := by
    rw [List.append_nil, List.map_map]
    rfl
  refine ⟨_, ?_, rfl, rfl, Multimap.proper_ofPairs _, ?_⟩
  · change List.Forall₂ _ s.named ((players.map Prod.snd).map Thing.entity ++ [])
    rw [hmatched, List.forall₂_map_right_iff]
    apply h.imp
    intro n p hplays
    exact ⟨p.2, rfl, hplays.refers⟩
  · intro role
    change Multimap.get? (Multimap.ofPairs (players.map fun p => (p.1, p.2.var))) role =
      Multimap.filed? (((s.named.zip ((players.map Prod.snd).map Thing.entity ++ [])).filter
        fun x => s.mapping.role? typeName x.1.1 = some role).map fun x => x.2.var)
    rw [hmatched, ← players_of_role h role]
    exact Multimap.get?_ofPairs ..

/-- An object of a relationship class is converted to a relation that stands for it, and in which
the objects that it names play their roles. -/
theorem convert_casts {c : Conversion}
    (hclass : s.mapping.classOf? s.stixType = some .relationship) (hc : s.convert = .ok c) :
    ∃ extensions typeName t r, s.extensions = .ok extensions ∧
      s.mapping.targetType? s.stixId s.stixType s.object extensions = .ok (some typeName) ∧
      c.statements.main? = some (.relation r) ∧ c.statements.relations = some t ∧
      s.Casts typeName t r := by
  obtain ⟨extensions, typeName, parts, main, hextensions, htarget, -, hmain, -, horder⟩ :=
    convert_parts hclass hc
  cases hmain with
  | entity hne => exact absurd rfl hne
  | @relation players v hplayers =>
    obtain ⟨r, hcasts⟩ := casts_mainRelation (players_plays hplayers)
      (Collected.all parts).attributes (Collected.all parts).attachments
    have hrelations : c.statements.relations =
        some ((s.mainRelation 0 typeName players (Collected.all parts).attributes).statement ++
          (Collected.all parts).attachments.helperStatement) := by
      rw [mainRelation_eq] at horder ⊢
      rw [Draft.order_eq] at horder
      rw [← Except.ok.inj horder]
    have hmain? : c.statements.main? = some (.relation r) := by
      rw [mainRelation_eq] at horder hcasts
      rw [(Draft.main?_of_order rfl horder).1]
      exact hcasts.inserted
    exact ⟨extensions, typeName, _, r, hextensions, htarget, hmain?, hrelations, hcasts⟩

end Subject

/-- **Role players are matched one by one.** If an object of a relationship class is converted,
strictly or not, then the statement for it matches the objects that its role-player properties
name, in order and nothing else, and inserts a relation of the object's type in the target schema
first. In it each role is played by those that were matched for the properties with this role, in
the same order, and there are no other roles. -/
theorem convertObject_casts {m : Mapping} {strict : Bool} {object : Members} {s : Subject}
    {c : Conversion} (hs : Subject.identify m strict object = .ok s)
    (hclass : m.classOf? s.stixType = some .relationship)
    (hc : convertObject m strict object = .ok c) :
    ∃ extensions typeName t r, s.extensions = .ok extensions ∧
      m.targetType? s.stixId s.stixType object extensions = .ok (some typeName) ∧
      c.statements.relations = some t ∧ s.Casts typeName t r := by
  rw [convertObject_eq hs] at hc
  obtain ⟨rfl, -, rfl⟩ := Subject.of_identify hs
  obtain ⟨extensions, typeName, t, r, hextensions, htarget, -, hrelations, hcasts⟩ :=
    Subject.convert_casts hclass hc
  exact ⟨extensions, typeName, t, r, hextensions, htarget, hrelations, hcasts⟩

/-- The documents of a small mapping: sightings, which are of another type if they are joint. -/
def jointDocuments : Documents where
  classes := { domain := ["tool", "identity"], relationship := ["sighting"] }
  domainObjects := [("tool", { typeName := "tool" }), ("identity", { typeName := "party" })]
  relationshipObjects :=
    [("sighting",
      { typeName := "sighting"
        extensions := [("joint", { typeName := some "joint-sighting" })]
        attributes :=
          [("seen_refs", { name := "seen", valueType := .roleplayer }),
            ("where_ref", { name := "where", valueType := .roleplayer }),
            ("observer_ref", { name := "observer", valueType := .roleplayer })] })]
  relationRoles :=
    [("sighting", [("seen_refs", "seen"), ("where_ref", "where"), ("observer_ref", "observer")]),
      ("joint-sighting", [("seen_refs", "met"), ("where_ref", "where"), ("observer_ref", "met")])]
  dictionary := ⟨"key", "property", ⟨"entry", "holder", "held"⟩, []⟩

/-- A joint sighting, in which one tool is seen twice. -/
def jointSighting : Members :=
  [("id", .string "sighting--1"), ("type", .string "sighting"),
    ("seen_refs", .array [.string "tool--1", .string "tool--2", .string "tool--1"]),
    ("where_ref", .string "identity--2"), ("observer_ref", .string "identity--1"),
    ("extensions", .object [("joint", .object [])])]

/-- The observer and what it has seen play one role in a joint sighting, and the tool that is seen
twice plays it twice. -/
theorem convertObject_casts_joint :
    let m := jointDocuments.mapping
    let s : Subject := ⟨m, true, jointSighting, "sighting--1", "sighting"⟩
    Mapping.ofDocuments jointDocuments = .ok m ∧ Subject.identify m true jointSighting = .ok s ∧
      m.classOf? s.stixType = some .relationship ∧
      s.named = [("observer_ref", "identity--1"), ("seen_refs", "tool--1"),
        ("seen_refs", "tool--2"), ("seen_refs", "tool--1"), ("where_ref", "identity--2")] ∧
      ∃ c typeName t r, convertObject m true jointSighting = .ok c ∧
        c.statements.relations = some t ∧ s.Casts typeName t r ∧
        t.matched.map Thing.var = ["v1", "v2", "v3", "v4", "v5"] ∧
        (Thing.relation r).players "met" = ["v1", "v2", "v3", "v4"] ∧
        (Thing.relation r).players "where" = ["v5"] := by
  intro m s
  have hs : Subject.identify m true jointSighting = .ok s := rfl
  have hclass : s.mapping.classOf? s.stixType = some .relationship := rfl
  have hroleplayers : s.mapping.roleplayerProperties s.stixType =
      .ok ["observer_ref", "seen_refs", "where_ref"] := by
    have hsorted : Text.sorted ["seen_refs", "where_ref", "observer_ref"] =
        ["observer_ref", "seen_refs", "where_ref"] := by
      simp [Text.sorted, List.mergeSort]
    exact congrArg Except.ok hsorted
  have hnamed : s.named = [("observer_ref", "identity--1"), ("seen_refs", "tool--1"),
      ("seen_refs", "tool--2"), ("seen_refs", "tool--1"), ("where_ref", "identity--2")] := by
    rw [Subject.named, Subject.roleplayers_eq hclass hroleplayers]
    rfl
  have hrun : (convertObject m true jointSighting).toOption.map (fun c =>
      c.statements.relations.map fun t => (t.matched.map Thing.var, t.inserted.head?.map
        fun main => (main.players "met", main.players "where"))) =
      some (some (["v1", "v2", "v3", "v4", "v5"], some (["v1", "v2", "v3", "v4"], ["v5"]))) := by
    rw [convertObject_eq hs, Subject.convert]
    simp only [hclass, Subject.draft, Subject.relationDraft, hroleplayers]
    decide +kernel
  rcases hc : convertObject m true jointSighting with defect | c
  · rw [hc] at hrun
    cases hrun
  obtain ⟨extensions, typeName, t, r, -, -, hrelations, hcasts⟩ :=
    convertObject_casts hs hclass hc
  simp only [hc, Except.toOption, Option.map_some, hrelations, hcasts.inserted, Option.some_inj,
    Prod.mk.injEq] at hrun
  obtain ⟨hmatched, hmet, hwhere⟩ := hrun
  exact ⟨rfl, hs, hclass, hnamed, c, typeName, t, r, rfl, hrelations, hcasts, hmatched, hmet,
    hwhere⟩

end ThreatGraph
