import ThreatGraph.Proofs.BuiltinMapping
import ThreatGraph.Proofs.RolePlayers
import ThreatGraph.Proofs.Strictness

/-!
# The ends of relationships

A relationship has two ends, and a property names who is at each. A property that is there must say
so: without an identifier, or with one that has no characters, the object is not converted, and
neither is an object that has none of the two properties. But a single property that is not there
is passed over. So in what a relationship is converted to, each end is played by as many as its
property names, which is nobody exactly if the object lacks the property (`convertObject_ends`,
`convertObject_half`).
-/

namespace ThreatGraph

open Naming

/-! ## Who is named -/

/-- The value does not say who is a role player: it has no identifier, or one without characters. -/
def Json.Unspecified (raw : Json) : Prop := raw.identifiers = [] ∨ "" ∈ raw.identifiers

/-- The object does not say who its role players are: it has none of the properties that name them,
or one that does not say whom it names. -/
def Members.Unspecified (object : Members) (properties : List String) : Prop :=
  (∀ property ∈ properties, object.get? property = none) ∨
    ∃ property ∈ properties, ∃ raw, object.get? property = some raw ∧ raw.Unspecified

theorem toOption_eq_some {ε α : Type} {result : Except ε α} {a : α} :
    result.toOption = some a ↔ result = .ok a := by
  cases result <;> simp [Except.toOption]

/-- Texts that are filed are those that are found, or there are none. -/
theorem Multimap.getD_filed? (texts : List String) : (filed? texts).getD [] = texts := by
  cases texts with
  | nil => rfl
  | cons text rest => rfl

namespace Subject

variable {s : Subject} {typeName : String} {v w : Variables}

/-- What is named by the properties that satisfy `p`. -/
theorem filter_namedBy (s : Subject) (p : String → Bool) (properties : List String) :
    (s.namedBy properties).filter (fun n => p n.1) = s.namedBy (properties.filter p) := by
  induction properties with
  | nil => rfl
  | cons property rest ih =>
    have hfirst : ((((s.object.get? property).elim [] Json.identifiers).map fun id =>
        (property, id)).filter fun n => p n.1) =
        if p property then ((s.object.get? property).elim [] Json.identifiers).map fun id =>
          (property, id) else [] := by
      rw [List.filter_map]
      cases hp : p property with
      | false => simp [Function.comp_def, hp]
      | true => simp [Function.comp_def, hp]
    rw [namedBy, List.flatMap_cons, List.filter_append, hfirst]
    change _ ++ (s.namedBy rest).filter _ = _
    rw [ih, List.filter_cons]
    split
    · rfl
    · exact List.nil_append _

/-- A property names as many objects as it has identifiers. -/
theorem length_namedBy_single (s : Subject) (property : String) :
    (s.namedBy [property]).length =
      ((s.object.get? property).elim [] Json.identifiers).length := by
  rw [namedBy, List.flatMap_cons, List.flatMap_nil, List.append_nil, List.length_map]

/-- A role is played as often as objects are named by properties that have it. -/
theorem Casts.playerCount {t : Statement} {r : Relation} (h : s.Casts typeName t r)
    (role : String) :
    r.playerCount role =
      (s.namedBy (s.roleplayers.filter fun property =>
        s.mapping.role? typeName property = some role)).length := by
  have hlength : s.named.length ≤ t.matched.length := h.matched.length_eq.le
  rw [Relation.playerCount, h.players role, Multimap.getD_filed?, List.length_map,
    ← filter_namedBy]
  change _ = (s.named.filter _).length
  -- the objects that are named are the first halves of the pairs
  rw [← List.map_fst_zip hlength, List.filter_map, List.length_map, List.map_fst_zip hlength]
  rfl

/-- Whoever is a role player was named by an identifier with characters. -/
theorem players_specified {properties : List String} {players : List (String × Entity)}
    (h : (s.players typeName properties).outcome v = (.ok players, w)) :
    ∀ property ∈ properties, ∀ raw, s.object.get? property = some raw → ¬ raw.Unspecified := by
  induction properties generalizing v players with
  | nil => exact fun _ hproperty => absurd hproperty List.not_mem_nil
  | cons first rest ih =>
    intro property hproperty raw hraw
    rcases players_cons_ok h with ⟨hnone, hrest⟩ |
      ⟨found, ids, role, entities, others, u, hfound, hids, -, -, hothers, -⟩
    · rcases List.mem_cons.mp hproperty with rfl | hproperty
      · cases hnone.symm.trans hraw
      · exact ih hrest property hproperty raw hraw
    · rcases List.mem_cons.mp hproperty with rfl | hproperty
      · obtain rfl := Option.some.inj (hfound.symm.trans hraw)
        obtain ⟨hshape, hsome, hchars, -⟩ := roleplayerIds_ok hids
        have hidentifiers : found.identifiers = ids := by
          rcases hshape with ⟨id, rfl, rfl⟩ | ⟨items, rfl, htexts⟩
          · rfl
          · exact filterMap_of_allTexts? htexts
        rw [Json.Unspecified, hidentifiers]
        rintro (hnil | hempty)
        · exact hsome hnil
        · exact hchars "" hempty rfl
      · exact ih hothers property hproperty raw hraw

/-- Nobody is a role player of an object that has none of the properties. -/
theorem players_eq_nil {properties : List String} {players : List (String × Entity)}
    (hnone : ∀ property ∈ properties, s.object.get? property = none)
    (h : (s.players typeName properties).outcome v = (.ok players, w)) : players = [] := by
  have hplays := players_plays h
  have hnamed : s.namedBy properties = [] := by
    rw [namedBy, List.flatMap_eq_nil_iff]
    intro property hproperty
    rw [hnone property hproperty]
    rfl
  rw [hnamed] at hplays
  exact List.forall₂_nil_left_iff.mp hplays

/-! ## Objects that do not say who their role players are -/

section Unspecified

variable {o : ObjectMapping} (hclass : s.mapping.classOf? s.stixType = some .relationship)
include hclass

/-- A relationship that is drafted says who its role players are. -/
theorem specified_of_draft {drafted : Draft × List Skipped}
    (h : (s.draft .relationship).outcome v = (.ok drafted, w)) :
    ¬ s.object.Unspecified s.roleplayers := by
  obtain ⟨extensions, typeName, -, -, h⟩ := draft_eq_ok.mp h
  rw [if_pos rfl] at h
  obtain ⟨roleplayers, players, u, collected, hroleplayers, hplayers, hsome, -, -⟩ :=
    relationDraft_eq_ok.mp h
  obtain rfl : s.roleplayers = roleplayers := roleplayers_eq hclass hroleplayers
  rintro (hnone | ⟨property, hproperty, raw, hraw, hunspecified⟩)
  · exact hsome (players_eq_nil hnone hplayers)
  · exact players_specified hplayers property hproperty raw hraw hunspecified

/-- Why role players of an object cannot be matched does not hang on whether the conversion is
strict, so no property is at fault but those that name them. -/
theorem players_failsBy (ho : s.mapping.objects.get? s.stixType = some o)
    (htype : s.object.text? "type" = some s.stixType) {typeName : String}
    (hroles : ∀ property ∈ o.roleplayers, ∃ role, s.mapping.role? typeName property = some role) :
    (s.players typeName s.roleplayers).FailsBy fun defect =>
      defect.OfObject ∨ s.mapping.FailsPlayers s.object defect := by
  have hproperties : ∀ property ∈ s.roleplayers, property ∈ o.roleplayers := by
    intro property hproperty
    rw [roleplayers_eq hclass (Mapping.roleplayerProperties_of_object ho)] at hproperty
    exact Text.mem_sorted.mp hproperty
  have hlenient := players_fails (s := s.under false) hclass ho htype hroles hproperties
  rw [players_under] at hlenient
  refine hlenient.mono fun defect hdefect => ?_
  cases hdefect with
  | object hobject => exact .inl hobject
  | players _ hplayers => exact .inr hplayers
  | property hstrict => cases hstrict

/-- Why a relationship that does not say who its role players are is not converted: for a reason
that any object can have, or because of the properties that name its role players. -/
theorem draft_failsBy (hm : s.mapping.Consistent)
    (ho : s.mapping.objects.get? s.stixType = some o)
    (htype : s.object.text? "type" = some s.stixType)
    (hunspecified : s.object.Unspecified s.roleplayers) :
    (s.draft .relationship).FailsBy fun defect =>
      defect.OfObject ∨ s.mapping.FailsPlayers s.object defect := by
  refine .bind (.ofExcept fun defect h => .inl (extensions_error h)) fun extensions _ _ _ => ?_
  refine .bind (.ofExcept fun defect h => ?_) fun target _ _ htarget => ?_
  · obtain ⟨defect, hanswer, rfl⟩ := mapError_eq_error.mp h
    exact .inl (Mapping.targetType?_error hanswer)
  cases target with
  | none => exact absurd (ask_eq_ok htarget) (Mapping.targetType?_ne_none ho)
  | some typeName =>
    have hrelation := Mapping.mem_relationTypes_of_targetType? ho (ask_eq_ok htarget)
    have hproperties := Mapping.roleplayerProperties_of_object ho
    have hplayers := players_failsBy hclass ho htype fun _ hproperty =>
      hm.roles hclass ho hrelation hproperty
    refine .bind .fresh fun var _ _ _ => ?_
    refine .bind (.ofExcept fun defect h => ?_) fun roleplayers _ _ hroleplayers => ?_
    · rw [hproperties] at h
      cases h
    obtain rfl := roleplayers_eq hclass (ask_eq_ok hroleplayers)
    refine .bind hplayers fun players _ _ hmatched => ?_
    -- if the role players were matched nevertheless, then there are none
    have hnil : players = [] := by
      rcases hunspecified with hnone | ⟨property, hproperty, raw, hraw, hraw'⟩
      · exact players_eq_nil hnone hmatched
      · exact absurd hraw' (players_specified hmatched property hproperty raw hraw)
    rw [hnil]
    exact .bind (.throw (.inr (.inl rfl))) fun _ _ _ h => absurd h throw_ne_ok

/-- A relationship that is converted says who its role players are. -/
theorem specified_of_convert {c : Conversion} (hc : s.convert = .ok c) :
    ¬ s.object.Unspecified s.roleplayers := by
  rcases convert_ok hc with ⟨hnone, -⟩ | ⟨_, _, _, _, _, hclass', hdraft, -, -⟩
  · cases hclass.symm.trans hnone
  · obtain rfl := Option.some.inj (hclass'.symm.trans hclass)
    exact specified_of_draft hclass hdraft

/-- A relationship without role players fails, for a reason that objects of any class can have or
because of a player that cannot be cast. -/
theorem convert_unspecified (hm : s.mapping.Consistent)
    (ho : s.mapping.objects.get? s.stixType = some o)
    (htype : s.object.text? "type" = some s.stixType)
    (hunspecified : s.object.Unspecified s.roleplayers) :
    ∃ defect, s.convert = .error defect ∧
      (defect.OfObject ∨ s.mapping.FailsPlayers s.object defect) := by
  rcases hc : s.convert with defect | c
  · refine ⟨defect, rfl, ?_⟩
    rw [s.convert_eq_conversion hclass] at hc
    rcases bind_fails.mp hc with hdraft | ⟨drafted, w, hdraft, -⟩
    · exact draft_failsBy hclass hm ho htype hunspecified {} defect hdraft
    · exact absurd hunspecified (specified_of_draft hclass hdraft)
  · exact absurd hunspecified (specified_of_convert hclass hc)

end Unspecified

/-! ## The ends of a relationship -/

/-- The subject is a relationship under the built-in mapping. -/
structure IsRelationship (s : Subject) : Prop where
  mapping : s.mapping = Documents.builtin.mapping
  stixType : s.stixType = "relationship"

namespace IsRelationship

variable (hs : s.IsRelationship)
include hs

theorem classOf? : s.mapping.classOf? s.stixType = some .relationship := by
  rw [hs.mapping, hs.stixType]
  exact Builtin.classOf?_relationship

theorem object : s.mapping.objects.get? s.stixType = some Builtin.relationshipObject := by
  rw [hs.mapping, hs.stixType]
  exact Builtin.object_relationship

theorem consistent : s.mapping.Consistent := by
  rw [hs.mapping]
  exact Mapping.consistent_builtin

theorem roleplayers : s.roleplayers = Builtin.relationshipEnds := by
  apply roleplayers_eq hs.classOf?
  rw [hs.mapping, hs.stixType]
  exact Builtin.roleplayerProperties_relationship

/-- Each end has its own role, which as many play as the property of the end names. -/
theorem playerCount (hrelation : typeName ∈ Builtin.relationshipObject.relationTypes)
    {t : Statement} {r : Relation} (h : s.Casts typeName t r) {property : String}
    (hend : property ∈ Builtin.relationshipEnds) :
    ∃ role, s.mapping.role? typeName property = some role ∧
      r.playerCount role = ((s.object.get? property).elim [] Json.identifiers).length := by
  obtain ⟨hsome, halone⟩ := Builtin.roles_relationship typeName hrelation property hend
  rw [← hs.mapping] at hsome halone
  obtain ⟨role, hrole⟩ := Option.isSome_iff_exists.mp hsome
  refine ⟨role, hrole, ?_⟩
  rw [hrole] at halone
  rw [h.playerCount, hs.roleplayers, halone, length_namedBy_single]

end IsRelationship

/-- An object of the type of relationships is identified as one. -/
theorem isRelationship_of_identify {strict : Bool} {object : Members}
    (htype : object.text? "type" = some "relationship")
    (hs : identify Documents.builtin.mapping strict object = .ok s) : s.IsRelationship := by
  obtain ⟨stixId, stixType, -, htext, rfl⟩ := identify_eq_ok.mp hs
  exact ⟨rfl, Option.some.inj ((requiredText_eq_ok htext).symm.trans htype)⟩

end Subject

/-- **Ends are played as they are specified.** Under the built-in mapping, what a relationship is
converted to, strictly or not, has its own role for each end. As many play it as the property of
the end names, which is nobody only if the object does not have the property, and that holds of one
end at most. A relationship is not converted if it has the property of neither end, or one that
does not say whom it names: that is the fault of the object or of what these properties name. -/
theorem convertObject_ends {m : Mapping} {strict : Bool} {object : Members}
    (hm : Mapping.builtin = .ok m) (htype : object.text? "type" = some "relationship") :
    (∀ c, convertObject m strict object = .ok c → ∃ r, c.statements.main? = some (.relation r) ∧
      (∃ property ∈ Builtin.relationshipEnds, object.get? property ≠ none) ∧
      ∀ property ∈ Builtin.relationshipEnds, ∃ role, m.role? r.typeName property = some role ∧
        r.playerCount role = ((object.get? property).elim [] Json.identifiers).length ∧
        (r.playerCount role = 0 ↔ object.get? property = none)) ∧
    (object.Unspecified Builtin.relationshipEnds →
      ∃ defect, convertObject m strict object = .error defect ∧
        (defect.OfObject ∨ m.FailsPlayers object defect)) := by
  obtain rfl := Except.ok.inj (Mapping.builtin_eq.symm.trans hm)
  constructor
  · intro c hc
    obtain ⟨s, hs, hconvert⟩ := convertObject_ok hc
    have hrelationship := Subject.isRelationship_of_identify htype hs
    obtain ⟨hmapping, -, rfl⟩ := Subject.of_identify hs
    obtain ⟨_, typeName, t, r, -, htarget, hmain, -, hcasts⟩ :=
      Subject.convert_casts hrelationship.classOf? hconvert
    have hrelation := Mapping.mem_relationTypes_of_targetType? hrelationship.object htarget
    have hspecified := Subject.specified_of_convert hrelationship.classOf? hconvert
    rw [hrelationship.roleplayers, Members.Unspecified, not_or] at hspecified
    obtain ⟨hsome, hnames⟩ := hspecified
    refine ⟨r, hmain, by simpa using hsome, fun property hend => ?_⟩
    obtain ⟨role, hrole, hcount⟩ := hrelationship.playerCount hrelation hcasts hend
    rw [hcasts.ofType, ← hmapping]
    refine ⟨role, hrole, hcount, ?_⟩
    rw [hcount]
    constructor
    · intro hnobody
      rcases hget : s.object.get? property with _ | raw
      · rfl
      -- a property that is there names somebody
      · rw [hget] at hnobody
        have hnil : raw.identifiers = [] := List.eq_nil_of_length_eq_zero hnobody
        exact absurd ⟨property, hend, raw, hget, .inl hnil⟩ hnames
    · intro hget
      rw [hget]
      rfl
  · intro hunspecified
    rcases hidentify : Subject.identify Documents.builtin.mapping strict object with rejection | s
    · refine ⟨.rejected rejection, ?_, .inl (Subject.identify_error hidentify)⟩
      rw [convertObject, hidentify]
      rfl
    · have hrelationship := Subject.isRelationship_of_identify htype hidentify
      obtain ⟨hmapping, -, rfl⟩ := Subject.of_identify hidentify
      rw [convertObject_eq hidentify, ← hmapping]
      apply Subject.convert_unspecified hrelationship.classOf? hrelationship.consistent
        hrelationship.object _ (hrelationship.roleplayers ▸ hunspecified)
      rw [hrelationship.stixType, htype]

/-- A relationship between a user and what it uses. -/
def usesWith (ends : Members) : Members :=
  [("id", .string "relationship--1"), ("type", .string "relationship"),
    ("relationship_type", .string "uses")] ++ ends

/-- What the relationship is converted to under the built-in mapping: the type of the relation, and
who plays its two roles. -/
def usersAndUsed (ends : Members) : Option (String × List String × List String) :=
  (convertObject Documents.builtin.mapping true (usesWith ends)).toOption.bind fun c =>
    c.statements.main?.map fun main => (main.typeName, main.players "user", main.players "used")

/-- The users and the used are those that play their roles in the relation that stands for the
object. -/
theorem usersAndUsed_eq_some {ends : Members} {typeName : String} {users used : List String}
    (h : usersAndUsed ends = some (typeName, users, used)) :
    ∃ c main, convertObject Documents.builtin.mapping true (usesWith ends) = .ok c ∧
      c.statements.main? = some main ∧ main.typeName = typeName ∧ main.players "user" = users ∧
      main.players "used" = used := by
  obtain ⟨c, hc, h⟩ := Option.bind_eq_some_iff.mp h
  obtain ⟨main, hmain, h⟩ := Option.map_eq_some_iff.mp h
  obtain ⟨htype, husers, hused⟩ : _ ∧ _ ∧ _ := by simpa using h
  exact ⟨c, main, toOption_eq_some.mp hc, hmain, htype, husers, hused⟩

/-- The conversion of a relationship with given ends starts from what it is identified as. -/
theorem convertObject_usesWith (ends : Members) :
    convertObject Documents.builtin.mapping true (usesWith ends) =
      Subject.convert ⟨Documents.builtin.mapping, true, usesWith ends, "relationship--1",
        "relationship"⟩ :=
  convertObject_eq rfl

/-- Malwares that are in one list are at the same end, and nothing is converted if a tool has no
identifier. -/
theorem convertObject_ends_uses : ∃ m, Mapping.builtin = .ok m ∧
    (∃ c r,
      Members.text? (usesWith [("source_ref", .array [.string "malware--1", .string "malware--2"]),
        ("target_ref", .string "tool--1")]) "type" = some "relationship" ∧
      convertObject m true (usesWith
        [("source_ref", .array [.string "malware--1", .string "malware--2"]),
          ("target_ref", .string "tool--1")]) = .ok c ∧
      c.statements.main? = some (.relation r) ∧ m.role? r.typeName "source_ref" = some "user" ∧
      r.playerCount "user" = 2) ∧
    ∃ defect, convertObject m true (usesWith
        [("source_ref", .string "malware--1"), ("target_ref", .string "")]) = .error defect := by
  have hm := Mapping.builtin_eq
  refine ⟨_, hm, ?_, ?_⟩
  · have hrun : usersAndUsed [("source_ref", .array [.string "malware--1", .string "malware--2"]),
        ("target_ref", .string "tool--1")] = some ("uses", ["v1", "v2"], ["v3"]) := by
      rw [usersAndUsed, convertObject_usesWith, Subject.convert]
      simp only [Builtin.classOf?_relationship, Subject.draft, Subject.relationDraft,
        Builtin.roleplayerProperties_relationship]
      decide +kernel
    obtain ⟨c, main, hc, hmain, htype, -, -⟩ := usersAndUsed_eq_some hrun
    obtain ⟨r, hr, -, hcounts⟩ := (convertObject_ends hm rfl).1 c hc
    obtain rfl := Option.some.inj (hmain.symm.trans hr)
    have htype : r.typeName = "uses" := htype
    have hrole : Documents.builtin.mapping.role? "uses" "source_ref" = some "user" := by
      decide +kernel
    obtain ⟨role, hfound, hcount, -⟩ := hcounts "source_ref" List.mem_cons_self
    rw [← htype] at hrole
    obtain rfl := Option.some.inj (hrole.symm.trans hfound)
    exact ⟨c, r, rfl, hc, hr, hrole, hcount⟩
  · have hunspecified : Members.Unspecified (usesWith
        [("source_ref", .string "malware--1"), ("target_ref", .string "")])
        Builtin.relationshipEnds :=
      .inr ⟨"target_ref", by decide, .string "", rfl, .inr (List.mem_singleton.mpr rfl)⟩
    obtain ⟨defect, hdefect, -⟩ := (convertObject_ends hm rfl).2 hunspecified
    exact ⟨defect, hdefect⟩

/-- A relationship of which only one end is specified is converted nevertheless, and nobody plays
the role of the other end. -/
theorem convertObject_half : ∃ m c main, Mapping.builtin = .ok m ∧
    Members.text? (usesWith [("source_ref", .string "malware--1")]) "type" = some "relationship" ∧
    Members.get? (usesWith [("source_ref", .string "malware--1")]) "target_ref" = none ∧
    convertObject m true (usesWith [("source_ref", .string "malware--1")]) = .ok c ∧
    c.statements.main? = some main ∧ m.role? main.typeName "target_ref" = some "used" ∧
    main.players "used" = [] := by
  have hrun : usersAndUsed [("source_ref", .string "malware--1")] =
      some ("uses", ["v1"], []) := by
    rw [usersAndUsed, convertObject_usesWith, Subject.convert]
    simp only [Builtin.classOf?_relationship, Subject.draft, Subject.relationDraft,
      Builtin.roleplayerProperties_relationship]
    decide +kernel
  obtain ⟨c, main, hc, hmain, htype, -, hused⟩ := usersAndUsed_eq_some hrun
  have hrole : Documents.builtin.mapping.role? "uses" "target_ref" = some "used" := by
    decide +kernel
  exact ⟨_, c, main, Mapping.builtin_eq, rfl, rfl, hc, hmain, htype ▸ hrole, hused⟩

end ThreatGraph
