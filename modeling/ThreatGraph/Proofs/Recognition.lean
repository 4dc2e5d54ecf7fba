import ThreatGraph.Proofs.BuiltinMapping
import ThreatGraph.Proofs.Filing
import ThreatGraph.Proofs.Mentions

/-!
# Objects are found again by their identifiers

Statements that come later know an object only by its identifier. So what stands for an object must
hold the identifier, and nothing else under the name that is looked up. This is not built in: the
identifier is a property like others, and is kept because the mapping has an entry for it. What a
mapping must have for that is said by `Mapping.Identifies`, and the built-in mapping has it
(`Mapping.identifies_builtin`). Then whatever is matched for an object, by the object itself or by
any other that refers to it, is matched by what was inserted for it (`convertObject_recognized`).
-/

namespace ThreatGraph

open Naming

/-- The identifiers of objects are kept, as texts and under the name that they are matched by, and
nothing else is kept under that name. -/
structure Mapping.Identifies (m : Mapping) : Prop where
  kept : ∃ info, m.common.get? "id" = some info ∧ info.name = idAttribute ∧
    info.valueType = .scalar .string
  /-- no type of objects has an entry of its own for identifiers -/
  shared : ∀ o ∈ m.objects, "id" ∉ Table.names o.2.attributes
  common : ∀ entry ∈ m.common, entry.1 ≠ "id" → entry.2.name ≠ idAttribute
  object : ∀ o ∈ m.objects, ∀ entry ∈ o.2.attributes, entry.2.name ≠ idAttribute
  extension : ∀ o ∈ m.objects, ∀ extension ∈ o.2.extensions, ∀ entry ∈ extension.2.attributes,
    entry.2.name ≠ idAttribute

namespace Mapping.Identifies

variable {m : Mapping} {stixType extension property : String} {info : AttributeInfo}

/-- Identifiers are stored under their own attribute. -/
theorem attribute?_id (hm : m.Identifies) (stixType : String) :
    ∃ declared, m.attribute? stixType "id" =
      .ok (some ⟨idAttribute, .scalar .string, declared⟩) := by
  obtain ⟨⟨name, valueType, declared⟩, hinfo, rfl, rfl⟩ := hm.kept
  refine ⟨declared, ?_⟩
  rw [attribute?, hinfo]

/-- Other properties are kept under other names. -/
theorem attribute?_ne (hm : m.Identifies) (hproperty : property ≠ "id")
    (h : m.attribute? stixType property = .ok (some info)) : info.name ≠ idAttribute := by
  unfold attribute? at h
  split at h
  · next common hcommon =>
    obtain rfl := Option.some.inj (Except.ok.inj h)
    exact hm.common _ (Table.mem_of_get? hcommon) hproperty
  · obtain ⟨o, ho, h⟩ := except_bind_eq_ok.mp h
    have ho := Table.mem_of_get? (found_eq_ok.mp ho)
    exact hm.object _ ho _ (Table.mem_of_get? (Except.ok.inj h))

/-- No property of an extension is stored there. -/
theorem extensionAttribute?_ne (hm : m.Identifies)
    (h : m.extensionAttribute? stixType extension property = .ok (some info)) :
    info.name ≠ idAttribute := by
  obtain ⟨o, ho, h⟩ := except_bind_eq_ok.mp h
  obtain ⟨e, he, h⟩ := except_bind_eq_ok.mp h
  have ho := Table.mem_of_get? (found_eq_ok.mp ho)
  have he := Table.mem_of_get? (found_eq_ok.mp he)
  exact hm.extension _ ho _ he _ (Table.mem_of_get? (Except.ok.inj h))

/-- An object is not its own role player. -/
theorem not_mem_roleplayers {s : Subject} (hm : s.mapping.Identifies) : "id" ∉ s.roleplayers := by
  intro hmem
  rw [Subject.roleplayers] at hmem
  split at hmem
  · cases h : s.mapping.roleplayerProperties s.stixType with
    | error defect =>
      rw [h] at hmem
      cases hmem
    | ok properties =>
      obtain ⟨o, ho, hproperties⟩ := except_bind_eq_ok.mp h
      obtain rfl := Except.ok.inj hproperties
      rw [h] at hmem
      obtain ⟨entry, hentry, hname⟩ := List.mem_map.mp (Text.mem_sorted.mp hmem)
      apply hm.shared _ (Table.mem_of_get? (found_eq_ok.mp ho))
      exact hname ▸ List.mem_map_of_mem (List.mem_of_mem_filter hentry)
  · cases hmem

end Mapping.Identifies

/-- The mapping that comes with the program identifies objects in this way. -/
theorem Mapping.identifies_builtin : Documents.builtin.mapping.Identifies where
  kept := ⟨_, rfl, rfl, rfl⟩
  shared := by decide +kernel
  common := by decide +kernel
  object := by decide +kernel
  extension := by decide +kernel

/-! ## What is inserted for an object -/

namespace Subject

variable {s : Subject}

/-- What a property gives to a name, if it is converted and its entry has the name. -/
def gives (s : Subject) (name : String) (p : Property) : List String :=
  (s.accept p).toOption.elim [] fun info =>
    if info.name = name then info.valueType.literals p.raw else []

/-- A property is accepted under the entry that the mapping has for it. -/
theorem answer_of_accept {p : Property} {info : AttributeInfo} (h : s.accept p = .ok info) :
    p.answer = .ok (some info) := by
  unfold accept at h
  split at h
  · cases h
  · next found hfound =>
    have hinfo : found = info := by
      cases hrun : ((convertValue s.mapping ⟨s.reference, found.name⟩ found.valueType
        p.raw).outcome ⟨1⟩).1 with
      | error defect => simp [hrun, Except.map, Except.mapError] at h
      | ok value => simpa [hrun, Except.map, Except.mapError] using h
    rw [hinfo] at hfound
    cases hanswer : p.answer with
    | error defect => simp [hanswer, Except.toOption] at hfound
    | ok found => simpa [hanswer, Except.toOption] using hfound

/-- Members whose entries have other names give nothing to a name. -/
theorem gives_nothing {entry : String → Except MappingDefect (Option AttributeInfo)}
    {label : String → String} {name : String} {members : Members}
    (hentry : ∀ member ∈ members, ∀ info, entry member.1 = .ok (some info) → info.name ≠ name) :
    (labelled entry label members).flatMap (s.gives name) = [] := by
  rw [List.flatMap_eq_nil_iff]
  intro p hp
  obtain ⟨member, hmember, rfl⟩ := List.mem_map.mp hp
  rw [gives]
  cases h : s.accept ⟨label member.1, entry member.1, member.2⟩ with
  | error reason => rfl
  | ok info => exact if_neg (hentry member hmember info (answer_of_accept h))

/-- The identifier of an object gives its literal. -/
theorem gives_id (hm : s.mapping.Identifies) (id : String) :
    s.gives idAttribute ⟨"id", s.mapping.attribute? s.stixType "id", .string id⟩ = [quote id] := by
  obtain ⟨declared, hinfo⟩ := hm.attribute?_id s.stixType
  rw [hinfo]
  rfl

/-- The identifier is the only value that is filed under its name. -/
theorem filedUnder_id (hm : s.mapping.Identifies) {objectClass : ObjectClass}
    (hclass : s.mapping.classOf? s.stixType = some objectClass)
    (hdistinct : (Table.names s.object).Nodup)
    (hid : s.object.get? "id" = some (.string s.stixId)) :
    s.filedUnder idAttribute = [quote s.stixId] := by
  obtain ⟨before, after, hobject⟩ := List.append_of_mem (Table.mem_of_get? hid)
  rw [hobject, Table.names, List.map_append, List.map_cons] at hdistinct
  obtain ⟨hbefore, hafter⟩ : "id" ∉ before.map Prod.fst ∧ "id" ∉ after.map Prod.fst := by
    rw [← not_or, ← List.mem_append]
    exact (List.nodup_cons.mp (List.nodup_middle.mp hdistinct)).1
  -- no other property is filed under the name of the identifier
  have hother (members : Members) (hmembers : "id" ∉ members.map Prod.fst) :
      (labelled (s.mapping.attribute? s.stixType) id
        (members.filter fun member => !s.roleplayers.contains member.1)).flatMap
          (s.gives idAttribute) = [] := by
    apply gives_nothing
    intro member hmember info hinfo
    apply hm.attribute?_ne _ hinfo
    intro heq
    exact hmembers (heq ▸ List.mem_map_of_mem (List.mem_of_mem_filter hmember))
  have hown : (labelled (s.mapping.attribute? s.stixType) id s.ownMembers).flatMap
      (s.gives idAttribute) = [quote s.stixId] := by
    rw [ownMembers_eq hobject hm.not_mem_roleplayers, labelled, List.map_append, List.map_cons,
      List.flatMap_append, List.flatMap_cons]
    change List.flatMap _ (labelled _ id _) ++ (s.gives idAttribute _ ++
      List.flatMap _ (labelled _ id _)) = _
    rw [hother before hbefore, hother after hafter, List.nil_append, List.append_nil]
    exact gives_id hm s.stixId
  change s.listed.flatMap (s.gives idAttribute) = _
  rw [listed, hclass, Option.isSome_some, if_pos rfl, List.flatMap_append, hown]
  -- the properties of an extension are never filed under that name
  cases s.extension? with
  | none => rfl
  | some found =>
    obtain ⟨extension, members⟩ := found
    refine congrArg ([quote s.stixId] ++ ·) (gives_nothing ?_)
    intro member _ info hinfo
    exact hm.extensionAttribute?_ne hinfo

/-! ## What is matched for an object -/

/-- What stands for the object holds its identifier and no other, and all links of the object match
what is of the same type and holds the same. -/
structure Identified (s : Subject) (c : Conversion) (main : Thing) : Prop where
  stands : c.statements.main? = some main
  identifier : Multimap.get? main.attributes idAttribute = some [quote s.stixId]
  owners : ∀ t, c.statements.embedded = some t → ∀ i owner, t.matched[2 * i]? = some owner →
    owner.typeName = main.typeName ∧
      Multimap.get? owner.attributes idAttribute = Multimap.get? main.attributes idAttribute

/-- Wherever the object refers to an identifier, as that of a role player or of an object that it
mentions, it matches what holds the same identifiers as the other thing. -/
structure Finds (s : Subject) (c : Conversion) (stixId : String) (other : Thing) : Prop where
  player : ∀ (i : Nat) (property : String), s.named[i]? = some (property, stixId) →
    ∃ (t : Statement) (thing : Thing), c.statements.relations = some t ∧
      t.matched[i]? = some thing ∧
      Multimap.get? thing.attributes idAttribute = Multimap.get? other.attributes idAttribute
  mention : ∀ (i : Nat) (x : Mention), s.mentions[i]? = some x → x.id = stixId →
    ∃ (t : Statement) (thing : Thing), c.statements.embedded = some t ∧
      t.matched[2 * i + 1]? = some thing ∧
      Multimap.get? thing.attributes idAttribute = Multimap.get? other.attributes idAttribute

end Subject

section Objects

variable {m : Mapping} {strict : Bool} {object : Members} {s : Subject} {c : Conversion}

/-- What is matched by an identifier is found under it. -/
theorem Mapping.Refers.get? {id : String} {e : Entity} (h : m.Refers id e) :
    Multimap.get? e.attributes idAttribute = some [quote id] := by
  rw [h.attributes]
  rfl

/-- What stands for a converted object has the object's identifier, and only that one. -/
theorem convertObject_identified (hm : m.Identifies) {objectClass : ObjectClass}
    (hs : Subject.identify m strict object = .ok s)
    (hclass : m.classOf? s.stixType = some objectClass) (hdistinct : (Table.names object).Nodup)
    (hc : convertObject m strict object = .ok c) : ∃ main, s.Identified c main := by
  rw [convertObject_eq hs] at hc
  have hid : object.get? "id" = some (.string s.stixId) := by
    obtain ⟨stixId, stixType, hid, -, rfl⟩ := Subject.identify_eq_ok.mp hs
    obtain ⟨raw, hraw, htext⟩ := Option.bind_eq_some_iff.mp (Subject.requiredText_eq_ok hid)
    cases raw with
    | string text => rw [hraw, ← Option.some.inj htext]
    | _ => cases htext
  obtain ⟨rfl, -, rfl⟩ := Subject.of_identify hs
  obtain ⟨-, hlinks⟩ := Subject.convert_links hc
  obtain ⟨-, main, hmain, hfiled⟩ := Subject.convert_files hclass hc
  have hidentifier : Multimap.get? main.attributes idAttribute = some [quote s.stixId] := by
    -- what a relationship calls itself is kept under another name
    have hcalls : s.calls main idAttribute = [] := by
      cases main with
      | entity e => rfl
      | relation r =>
        have hne : Subject.relationNameAttribute ≠ idAttribute := by decide
        rw [Subject.calls, if_neg hne]
    rw [hfiled idAttribute (by decide), hcalls, Subject.filedUnder_id hm hclass hdistinct hid]
    rfl
  refine ⟨main, hmain, hidentifier, ?_⟩
  intro t ht i owner howner
  obtain ⟨hmatched, -, hplaces⟩ := hlinks t ht
  have hi : i < s.mentions.length := by
    have hlt := (List.getElem?_eq_some_iff.mp howner).1
    omega
  obtain ⟨main', owner', target, r, hmain', howner', -, -, hjoins⟩ :=
    hplaces i _ (List.getElem?_eq_getElem hi)
  obtain rfl := Option.some.inj (hmain.symm.trans hmain')
  obtain rfl := Option.some.inj (howner.symm.trans howner')
  refine ⟨hjoins.ownerType, ?_⟩
  rw [hidentifier]
  change Multimap.get? owner'.attributes idAttribute = _
  rw [hjoins.ownerId]
  rfl

/-- An object that is converted finds those that it refers to by their identifiers. -/
theorem convertObject_finds (hs : Subject.identify m strict object = .ok s)
    (hc : convertObject m strict object = .ok c) {stixId : String} {other : Thing}
    (hother : Multimap.get? other.attributes idAttribute = some [quote stixId]) :
    s.Finds c stixId other := by
  rw [convertObject_eq hs] at hc
  constructor
  case player =>
    intro i property hi
    by_cases hclass : s.mapping.classOf? s.stixType = some .relationship
    · obtain ⟨_, _, t, r, -, -, -, ht, hcasts⟩ := Subject.convert_casts hclass hc
      obtain ⟨hlt, hnamed⟩ := List.getElem?_eq_some_iff.mp hi
      have hlt' : i < t.matched.length := hcasts.matched.length_eq ▸ hlt
      obtain ⟨e, hthing, hrefers⟩ := hcasts.matched.get hlt hlt'
      refine ⟨t, .entity e, ht, ?_, ?_⟩
      · exact (List.getElem?_eq_getElem hlt').trans (congrArg some hthing)
      · rw [List.get_eq_getElem, hnamed] at hrefers
        exact hrefers.get?.trans hother.symm
    · -- an object that is no relationship names no players
      have hnone : s.named = [] := by
        rw [Subject.named, Subject.roleplayers, if_neg hclass]
        rfl
      rw [hnone] at hi
      cases hi
  case mention =>
    rintro i x hx rfl
    obtain ⟨hnone, hlinks⟩ := Subject.convert_links hc
    have hsome : s.mentions ≠ [] := List.ne_nil_of_mem (List.mem_of_getElem? hx)
    obtain ⟨t, ht⟩ := Option.ne_none_iff_exists'.mp (mt hnone.mp hsome)
    obtain ⟨-, -, hplaces⟩ := hlinks t ht
    obtain ⟨main, owner, target, r, -, -, htarget, -, hjoins⟩ := hplaces i x hx
    refine ⟨t, .entity target, ht, htarget, ?_⟩
    exact hjoins.target.get?.trans hother.symm

end Objects

/-- **Objects are found again.** The built-in mapping keeps identifiers under the name that they are
matched by, and nothing else. Under every mapping that does so, an object of a class that is
converted, strictly or not, stands in the store with its identifier and no other. Its own links
match it by its type and its identifier, and every other object that is converted and refers to it
matches what has the same identifier. -/
theorem convertObject_recognized :
    (∃ m, Mapping.builtin = .ok m ∧ m.Identifies) ∧
    ∀ {m : Mapping} {strict strict' : Bool} {object object' : Members} {s s' : Subject}
      {c c' : Conversion} {objectClass : ObjectClass}, m.Identifies →
      Subject.identify m strict object = .ok s → m.classOf? s.stixType = some objectClass →
      (Table.names object).Nodup → convertObject m strict object = .ok c →
      Subject.identify m strict' object' = .ok s' → convertObject m strict' object' = .ok c' →
      ∃ main, s.Identified c main ∧ s'.Finds c' s.stixId main := by
  refine ⟨⟨_, Mapping.builtin_eq, Mapping.identifies_builtin⟩, ?_⟩
  intro m strict strict' object object' s s' c c' objectClass hm hs hclass hdistinct hc hs' hc'
  obtain ⟨main, hmain⟩ := convertObject_identified hm hs hclass hdistinct hc
  exact ⟨main, hmain, convertObject_finds hs' hc' hmain.identifier⟩

/-- Somebody, and a note that they wrote. -/
def author : Members :=
  [("id", .string "identity--1"), ("type", .string "identity"), ("name", .string "a")]

/-- A note, with a property that is not converted. -/
def writtenNote : Members :=
  [("id", .string "note--1"), ("type", .string "note"), ("lang", .bool true),
    ("created_by_ref", .string "identity--1")]

/-- Under the built-in mapping the author of a note is found by the identifier that it has there. -/
theorem convertObject_recognized_author :
    let m := Documents.builtin.mapping
    let s : Subject := ⟨m, true, author, "identity--1", "identity"⟩
    let s' : Subject := ⟨m, false, writtenNote, "note--1", "note"⟩
    Mapping.builtin = .ok m ∧ m.Identifies ∧ Subject.identify m true author = .ok s ∧
      m.classOf? s.stixType = some .domain ∧ (Table.names author).Nodup ∧
      Subject.identify m false writtenNote = .ok s' ∧
      s'.mentions = [⟨"object-created::creator", "created-by-ref", "identity--1"⟩] ∧
      ∃ c c' main t creator, convertObject m true author = .ok c ∧
        convertObject m false writtenNote = .ok c' ∧ c.statements.main? = some main ∧
        Multimap.get? main.attributes idAttribute = some [quote "identity--1"] ∧
        c'.statements.embedded = some t ∧ t.matched[1]? = some creator ∧
        Multimap.get? creator.attributes idAttribute = some [quote "identity--1"] := by
  intro m s s'
  have hm : m.Identifies := Mapping.identifies_builtin
  have hs : Subject.identify m true author = .ok s := rfl
  have hs' : Subject.identify m false writtenNote = .ok s' := rfl
  have hclass : m.classOf? s.stixType = some .domain := rfl
  have hdistinct : (Table.names author).Nodup := by decide
  have hmentions :
      s'.mentions = [⟨"object-created::creator", "created-by-ref", "identity--1"⟩] := by
    decide +kernel
  have hrun : (convertObject m true author).isOk = true := by decide +kernel
  have hrun' : (convertObject m false writtenNote).isOk = true := by decide +kernel
  rcases hc : convertObject m true author with defect | c
  · rw [hc] at hrun
    cases hrun
  rcases hc' : convertObject m false writtenNote with defect | c'
  · rw [hc'] at hrun'
    cases hrun'
  obtain ⟨main, hmain, hfinds⟩ :=
    convertObject_recognized.2 hm hs hclass hdistinct hc hs' hc'
  have hmention : s'.mentions[0]? = some ⟨"object-created::creator", "created-by-ref",
      "identity--1"⟩ := by rw [hmentions]; rfl
  obtain ⟨t, creator, ht, hcreator, hsame⟩ := hfinds.mention 0 _ hmention rfl
  exact ⟨Mapping.builtin_eq, hm, hs, hclass, hdistinct, hs', hmentions, c, c', main, t, creator,
    rfl, rfl, hmain.stands, hmain.identifier, ht, hcreator, hsame.trans hmain.identifier⟩

end ThreatGraph
