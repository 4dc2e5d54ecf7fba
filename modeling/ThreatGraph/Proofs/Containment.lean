import Mathlib
import ThreatGraph.Proofs.Literals
import ThreatGraph.Proofs.Vocabulary

/-!
# The texts of objects stay in literals

An object may hold any texts, as identifiers, keys and values. In the statements that it is
converted to they stand in literals only: variables are those of the supply, and every type, role
and attribute name stands in the documents of the mapping, but for the names of the two attributes
for identifiers and for what a relationship calls itself (`convertObject_contained`).

Three kinds of things are told apart by their lexicons: entities that are matched, things of the
object itself, and links, whose type and roles are named inside words of the mapping.
-/

namespace ThreatGraph

open Naming

/-- A variable of a supply. -/
def IsVariable (x : String) : Prop := ∃ n, x = Variables.nameOf n

/-- The names that are handed out are variables. -/
theorem isVariable_nameOf (n : Nat) : IsVariable (Variables.nameOf n) := ⟨n, rfl⟩

variable (P : String → Prop)

namespace Lexicon

/-- The words of entities that are matched: they have an identifier and nothing else. -/
def matching : Lexicon := ⟨IsVariable, P, (· = idAttribute), fun _ => False⟩

/-- The words of the things that an object itself is stored as. -/
def own : Lexicon :=
  ⟨IsVariable, P, fun name => P name ∨ name = Subject.relationNameAttribute, P⟩

/-- The words of links: the type is named in the tag of a value type, and the roles are the halves
of an attribute name. -/
def links : Lexicon where
  vars := IsVariable
  types typeName := P ("relation:" ++ typeName) ∨ P ("list:relation:" ++ typeName)
  attributes _ := False
  roles role := ∃ other, P (role ++ "::" ++ other) ∨ P (other ++ "::" ++ role)

end Lexicon

/-- The things of a statement are within the lexicons of what is matched and what is inserted. -/
structure Statement.Within (matched inserted : Lexicon) (s : Statement) : Prop where
  matched : ∀ t ∈ s.matched, t.Within matched
  inserted : ∀ t ∈ s.inserted, t.Within inserted

/-- Helpers are things of the object, and links join entities that are matched. -/
structure Attachments.Within (a : Attachments) : Prop where
  helpers : ∀ h ∈ a.helpers,
    (Thing.entity h.entity).Within (.own P) ∧ (Thing.relation h.relation).Within (.own P)
  links : ∀ l ∈ a.links,
    (Thing.entity l.owner).Within (.matching P) ∧ (Thing.entity l.target).Within (.matching P) ∧
      (Thing.relation l.relation).Within (.links P)

/-- Attribute values are filed under words. -/
def FiledUnder (attributes : List (String × List String)) : Prop :=
  ∀ a ∈ attributes, P a.1 ∧ ∀ value ∈ a.2, IsValue value

structure Converted.Within (c : Converted) : Prop where
  literals : ∀ literal ∈ c.literals, IsValue literal
  attachments : c.attachments.Within P

structure Gathered.Within (g : Gathered) : Prop where
  attributes : FiledUnder P g.attributes
  attachments : g.attachments.Within P

/-- The main thing is one of the object, and the players of a relation are matched. -/
def MainThing.Within : MainThing → Prop
  | .entity e => (Thing.entity e).Within (.own P)
  | .relation r players =>
    (Thing.relation r).Within (.own P) ∧ ∀ e ∈ players, (Thing.entity e).Within (.matching P)

structure Draft.Within (d : Draft) : Prop where
  main : ∀ main ∈ d.main, main.Within P
  attachments : d.toAttachments.Within P

/-- All statements match entities by their identifiers; the first two insert things of the object,
the last inserts links. -/
structure OrderedStatements.Within (s : OrderedStatements) : Prop where
  entities : ∀ statement ∈ s.entities, statement.Within (.matching P) (.own P)
  relations : ∀ statement ∈ s.relations, statement.Within (.matching P) (.own P)
  embedded : ∀ statement ∈ s.embedded, statement.Within (.matching P) (.links P)

/-- An object is referred to by a variable and a type of the mapping. -/
structure Reference.Worded (r : Reference) : Prop where
  var : ∀ x, r.var = some x → IsVariable x
  typeName : ∀ typeName, r.typeName = some typeName → P typeName

variable {P}

/-- Words of the mapping are names of attributes. -/
theorem Lexicon.own_attributes {name : String} (h : P name) : (own P).attributes name := .inl h

/-- The name of the relation's kind is an attribute like any other. -/
theorem Lexicon.own_relationName : (own P).attributes Subject.relationNameAttribute := .inr rfl

/-! ## Attachments -/

namespace Attachments.Within

theorem nothing : Within P {} where
  helpers := fun _ hh => absurd hh List.not_mem_nil
  links := fun _ hl => absurd hl List.not_mem_nil

theorem append {a b : Attachments} (ha : a.Within P) (hb : b.Within P) : (a ++ b).Within P where
  helpers := fun h hh => (List.mem_append.mp hh).elim (ha.helpers h) (hb.helpers h)
  links := fun l hl => (List.mem_append.mp hl).elim (ha.links l) (hb.links l)

/-- A helper is of the object's own things, and so is its tie. -/
theorem helper {e : Entity} {r : Relation} (he : (Thing.entity e).Within (.own P))
    (hr : (Thing.relation r).Within (.own P)) : (Attachments.helper e r).Within P where
  helpers := by
    intro h hh
    obtain rfl := List.mem_singleton.mp hh
    exact ⟨he, hr⟩
  links := fun _ hl => absurd hl List.not_mem_nil

/-- The ends of a link are matched, and the link itself relates them. -/
theorem link {owner target : Entity} {r : Relation}
    (howner : (Thing.entity owner).Within (.matching P))
    (htarget : (Thing.entity target).Within (.matching P))
    (hr : (Thing.relation r).Within (.links P)) : (Attachments.link owner target r).Within P where
  helpers := fun _ hh => absurd hh List.not_mem_nil
  links := by
    intro l hl
    obtain rfl := List.mem_singleton.mp hl
    exact ⟨howner, htarget, hr⟩

end Attachments.Within

/-- An object that is matched is written with its type, a variable, and its identifier as a literal.
-/
theorem Entity.matching_within (n : Nat) {typeName : String} (htype : P typeName)
    (stixId : String) : (Thing.entity (.matching n typeName stixId)).Within (.matching P) :=
  (Thing.within_entity (isVariable_nameOf n) htype).addAttribute rfl (isValue_quote stixId)

/-- A tie is written with the words of its schema. -/
theorem HelperRelation.tie_within {r : HelperRelation} (hr : r.Worded P) {var owner helper : String}
    (hvar : IsVariable var) (howner : IsVariable owner) (hhelper : IsVariable helper) :
    (Thing.relation (r.tie var owner helper)).Within (.own P) :=
  ((Thing.within_relation hvar hr.typeName).addPlayer hr.ownerRole howner).addPlayer
    hr.helperRole hhelper

/-- Attributes of an entity are written with the words that they are filed under, and with literals.
-/
theorem Thing.Within.foldl_entity {l : Lexicon} {attributes : List (String × List String)}
    (h : FiledUnder l.attributes attributes) {e : Entity} (he : (Thing.entity e).Within l) :
    (Thing.entity (attributes.foldl (fun e a => e.addAttributes a.1 a.2) e)).Within l := by
  induction attributes generalizing e with
  | nil => exact he
  | cons a rest ih =>
    obtain ⟨hname, hvalues⟩ := h a List.mem_cons_self
    exact ih (fun b hb => h b (List.mem_cons_of_mem _ hb)) (he.addAttributes_entity hname hvalues)

theorem Thing.Within.foldl_relation {l : Lexicon} {attributes : List (String × List String)}
    (h : FiledUnder l.attributes attributes) {r : Relation} (hr : (Thing.relation r).Within l) :
    (Thing.relation (attributes.foldl (fun r a => r.addAttributes a.1 a.2) r)).Within l := by
  induction attributes generalizing r with
  | nil => exact hr
  | cons a rest ih =>
    obtain ⟨hname, hvalues⟩ := h a List.mem_cons_self
    exact ih (fun b hb => h b (List.mem_cons_of_mem _ hb)) (hr.addAttributes_relation hname hvalues)

/-- What is filed under words of the mapping is an attribute of the object's own things. -/
theorem FiledUnder.own {attributes : List (String × List String)} (h : FiledUnder P attributes) :
    FiledUnder (Lexicon.own P).attributes attributes :=
  fun a ha => ⟨Lexicon.own_attributes (h a ha).1, (h a ha).2⟩

/-- A reference to what has just been named is written with a variable and its type. -/
theorem Reference.worded_known (n : Nat) {typeName : String} (htype : P typeName)
    (stixId : Option String) :
    (known stixId (some (Variables.nameOf n)) (some typeName)).Worded P where
  var := by
    intro x hx
    obtain rfl := Option.some.inj (known_var_eq_some hx)
    exact isVariable_nameOf n
  typeName := by
    intro name hname
    obtain rfl := Option.some.inj (known_typeName_eq_some hname)
    exact htype

/-- A pair of roles is a text with two colons between them. -/
theorem Stix.eq_of_rolePair? {name owner target : String}
    (h : rolePair? name = some (owner, target)) : name = owner ++ "::" ++ target := by
  unfold rolePair? at h
  split at h
  · next hcut =>
    split at h
    · cases h
    · obtain ⟨rfl, rfl⟩ := Prod.mk.inj (Option.some.inj h)
      exact Text.append_of_cut? hcut
  · cases h

/-! ## Values -/

variable {m : Mapping} {owner : Owner}

/-- A link is written with the words of the mapping. -/
theorem convertLink_within (hm : m.Worded P) (hr : owner.reference.Worded P)
    (hname : P owner.attributeName) {typeName id targetType : String}
    (htype : (ValueType.relation typeName).Worded P) {v w : Variables} {a : Attachments}
    (h : (convertLink m owner typeName id targetType).outcome v = (.ok a, w)) : a.Within P := by
  obtain ⟨ownerRole, targetRole, supertype, ownerType, ownerId, hroles, hsuper, howner, -, rfl,
    -⟩ := convertLink_ok h
  rw [Stix.eq_of_rolePair? hroles] at hname
  refine .link (Entity.matching_within _ (hr.typeName _ howner) ownerId)
    (Entity.matching_within _ (hm.supertype hsuper) id) ?_
  have hownerRole : (Lexicon.links P).roles ownerRole := ⟨targetRole, .inl hname⟩
  have htargetRole : (Lexicon.links P).roles targetRole := ⟨ownerRole, .inr hname⟩
  have hnew := Thing.within_relation (l := .links P) (isVariable_nameOf (v.issued + 2)) htype
  exact (hnew.addPlayer hownerRole (isVariable_nameOf (v.issued + 1))).addPlayer htargetRole
    (isVariable_nameOf v.issued)

/-- So is the entity of a key, which keeps a key that is not listed in a literal. -/
theorem keyEntity_within {schema key : String} {k : KeyValueMapping} (hk : k.Worded P)
    {v w : Variables} {e : Entity} (h : (keyEntity schema k key).outcome v = (.ok e, w)) :
    (Thing.entity e).Within (.own P) := by
  obtain ⟨⟨typeName, hkey, rfl⟩ | ⟨custom, -, hcustom, rfl⟩, -⟩ := keyEntity_ok h
  · exact Thing.within_entity (isVariable_nameOf _) (hk.keys.get? hkey)
  · have hworded := hk.custom custom hcustom
    exact (Thing.within_entity (isVariable_nameOf _) hworded.entityType).addAttribute
      (Lexicon.own_attributes hworded.nameAttribute) (isValue_quote key)

/-- A type whose values are single literals, or lists of them, names no relation. -/
theorem ValueType.worded_of_isPrimitive {type : ValueType}
    (h : type.elementType.isPrimitive = true) : type.Worded P := by
  cases type with
  | list element =>
    cases element with
    | scalar => trivial
    | _ => cases h
  | relation => cases h
  | _ => trivial

mutual

/-- What a value is converted to is worded, if the value's type and its owner are. -/
theorem convertValue_within (hm : m.Worded P) {owner : Owner} (hr : owner.reference.Worded P)
    (hname : P owner.attributeName) : ∀ (type : ValueType) (raw : Json), type.Worded P →
      ∀ {v w : Variables} {c : Converted},
        (convertValue m owner type raw).outcome v = (.ok c, w) → c.Within P
  | .empty, _, _, v, w, c, h => by
    simp only [convertValue, pure_eq_ok] at h
    obtain ⟨rfl, -⟩ := h
    exact ⟨fun _ hl => absurd hl List.not_mem_nil, .nothing⟩
  | .roleplayer, _, _, v, w, c, h => by
    simp only [convertValue, pure_eq_ok] at h
    obtain ⟨rfl, -⟩ := h
    exact ⟨fun _ hl => absurd hl List.not_mem_nil, .nothing⟩
  | .scalar s, raw, _, v, w, c, h => by
    obtain ⟨literal, -, rfl, -⟩ := convertValue_scalar_ok h
    refine ⟨fun text htext => ?_, .nothing⟩
    obtain rfl := List.mem_singleton.mp htext
    exact literal.isValue_text
  | .list element, .array items, htype, v, w, c, h => by
    obtain ⟨_, ⟨⟩, -, hitems⟩ := convertValue_list_ok h
    exact convertItems_within hm hr hname element items htype hitems
  | .relation typeName, raw, htype, v, w, c, h => by
    obtain ⟨id, targetType, a, -, -, hlink, rfl⟩ := convertValue_relation_ok h
    exact ⟨fun _ hl => absurd hl List.not_mem_nil, convertLink_within hm hr hname htype hlink⟩
  | .composite schema, .object fields, _, v, w, c, h => by
    obtain ⟨_, composite, gathered, ownerVar, u, ⟨⟩, hcomposite, hfields, hvar, -, rfl⟩ :=
      convertValue_composite_ok h
    have hworded := hm.composite hcomposite
    -- the fields belong to the new entity, whose reference has a variable and no identifier
    have hself := Reference.worded_known v.issued hworded.typeName none
    have hgathered := convertFields_within hm hself fields hfields
    have hentity := Thing.Within.foldl_entity hgathered.attributes.own
      (Thing.within_entity (isVariable_nameOf v.issued) hworded.typeName)
    have htie := HelperRelation.tie_within hworded.relation (isVariable_nameOf u.issued)
      (hr.var ownerVar hvar) (isVariable_nameOf v.issued)
    exact ⟨fun _ hl => absurd hl List.not_mem_nil,
      (Attachments.Within.helper hentity htie).append hgathered.attachments⟩
  | .keyValue schema, .object pairs, _, v, w, c, h => by
    obtain ⟨_, k, ownerVar, a, ⟨⟩, hk, hvar, hpairs, rfl⟩ := convertValue_keyValue_ok h
    exact ⟨fun _ hl => absurd hl List.not_mem_nil,
      convertPairs_within hm hr hname (hm.keyValue hk) (hr.var ownerVar hvar) pairs hpairs⟩
  | .dictionary, .object entries, _, v, w, c, h => by
    obtain ⟨_, ownerVar, a, ⟨⟩, hvar, hentries, rfl⟩ := convertValue_dictionary_ok h
    exact ⟨fun _ hl => absurd hl List.not_mem_nil,
      convertEntries_within hm hr hname (hr.var ownerVar hvar) entries hentries⟩

theorem convertItems_within (hm : m.Worded P) {owner : Owner} (hr : owner.reference.Worded P)
    (hname : P owner.attributeName) (element : ValueType) : ∀ (items : List Json),
      element.Worded P → ∀ {v w : Variables} {c : Converted},
        (convertItems m owner element items).outcome v = (.ok c, w) → c.Within P
  | [], _, v, w, c, h => by
    simp only [convertItems, pure_eq_ok] at h
    obtain ⟨rfl, -⟩ := h
    exact ⟨fun _ hl => absurd hl List.not_mem_nil, .nothing⟩
  | item :: rest, htype, v, w, c, h => by
    obtain ⟨first, others, u, hfirst, hothers, rfl⟩ := convertItems_cons_ok h
    have hf := convertValue_within hm hr hname element item htype hfirst
    have ho := convertItems_within hm hr hname element rest htype hothers
    refine ⟨fun text htext => ?_, hf.attachments.append ho.attachments⟩
    exact (List.mem_append.mp htext).elim (hf.literals text) (ho.literals text)

theorem convertFields_within (hm : m.Worded P) {schema : String} {self : Reference}
    (hself : self.Worded P) : ∀ (fields : List (String × Json)) {v w : Variables} {g : Gathered},
      (convertFields m schema self fields).outcome v = (.ok g, w) → g.Within P
  | [], v, w, g, h => by
    simp only [convertFields, pure_eq_ok] at h
    obtain ⟨rfl, -⟩ := h
    exact ⟨fun _ ha => absurd ha List.not_mem_nil, .nothing⟩
  | (field, raw) :: rest, v, w, g, h => by
    obtain ⟨info, first, others, u, hinfo, hfirst, hothers, rfl⟩ := convertFields_cons_ok h
    have hworded := hm.compositeAttribute hinfo
    have howner : (Owner.mk self info.name).reference.Worded P := hself
    have hf := convertValue_within hm howner hworded.name info.valueType raw hworded.valueType
      hfirst
    have ho := convertFields_within hm hself rest hothers
    refine ⟨fun a ha => ?_, hf.attachments.append ho.attachments⟩
    rcases List.mem_cons.mp ha with rfl | ha
    · exact ⟨hworded.name, hf.literals⟩
    · exact ho.attributes a ha

theorem convertPairs_within (hm : m.Worded P) {owner : Owner} (hr : owner.reference.Worded P)
    (hname : P owner.attributeName) {ownerVar schema : String} {k : KeyValueMapping}
    (hk : k.Worded P) (hvar : IsVariable ownerVar) :
    ∀ (pairs : List (String × Json)) {v w : Variables} {a : Attachments},
      (convertPairs m owner ownerVar schema k pairs).outcome v = (.ok a, w) → a.Within P
  | [], v, w, a, h => by
    simp only [convertPairs, pure_eq_ok] at h
    obtain ⟨rfl, -⟩ := h
    exact .nothing
  | (key, raw) :: rest, v, w, a, h => by
    obtain ⟨converted, entity, others, u, u', hvalue, -, hentity, hothers, rfl⟩ :=
      convertPairs_cons_ok h
    have hliterals :=
      (convertValue_within hm hr hname k.valueType raw hk.valueType hvalue).literals
    have he := keyEntity_within hk hentity
    have htie := HelperRelation.tie_within hk.relation (isVariable_nameOf u'.issued) hvar he.var
    have ho := convertPairs_within hm hr hname hk hvar rest hothers
    exact (Attachments.Within.helper
      (he.addAttributes_entity (Lexicon.own_attributes hk.valueAttribute) hliterals) htie).append ho

theorem convertEntries_within (hm : m.Worded P) {owner : Owner} (hr : owner.reference.Worded P)
    (hname : P owner.attributeName) {ownerVar : String} (hvar : IsVariable ownerVar) :
    ∀ (entries : List (String × Json)) {v w : Variables} {a : Attachments},
      (convertEntries m owner ownerVar entries).outcome v = (.ok a, w) → a.Within P
  | [], v, w, a, h => by
    simp only [convertEntries, pure_eq_ok] at h
    obtain ⟨rfl, -⟩ := h
    exact .nothing
  | (key, raw) :: rest, v, w, a, h => by
    obtain ⟨type, item, converted, others, u, -, hprimitive, hitem, hvalue, -, hothers, rfl⟩ :=
      convertEntries_cons_ok h
    have hliterals := (convertValue_within hm hr hname type raw
      (ValueType.worded_of_isPrimitive hprimitive) hvalue).literals
    have hworded := hm.dictionaryItem hitem
    have hnew := Thing.within_entity (l := .own P) (isVariable_nameOf u.issued) hworded.entityType
    have he := (hnew.addAttribute (Lexicon.own_attributes hm.dictionary.keyAttribute)
      (isValue_quote key)).addAttributes_entity (Lexicon.own_attributes hworded.valueAttribute)
      hliterals
    have htie := (HelperRelation.tie_within hm.dictionary.relation
      (isVariable_nameOf (u.issued + 1)) hvar (isVariable_nameOf u.issued)).addAttribute
      (Lexicon.own_attributes hm.dictionary.propertyAttribute) (isValue_quote owner.attributeName)
    have ho := convertEntries_within hm hr hname hvar rest hothers
    exact (Attachments.Within.helper he htie).append ho

end

/-! ## Objects -/

theorem Gathered.Within.append {c d : Collected} (hc : c.toGathered.Within P)
    (hd : d.toGathered.Within P) : (c ++ d).toGathered.Within P where
  attributes := fun a ha => (List.mem_append.mp ha).elim (hc.attributes a) (hd.attributes a)
  attachments := hc.attachments.append hd.attachments

theorem Gathered.Within.nothing {skipped : List Skipped} :
    ({ skipped } : Collected).toGathered.Within P :=
  ⟨fun _ ha => absurd ha List.not_mem_nil, .nothing⟩

namespace Subject

variable {s : Subject} {self : Reference} {v w : Variables} {collected : Collected}

/-- A property is written with the words of its entry, or skipped. -/
theorem property_within (hm : s.mapping.Worded P) (hself : self.Worded P) {label : String}
    {info : Option AttributeInfo} (hinfo : ∀ i, info = some i → i.Worded P) {raw : Json}
    (h : (s.property self label info raw).outcome v = (.ok collected, w)) :
    collected.toGathered.Within P := by
  rcases property_ok h with ⟨-, rfl, -⟩ | ⟨i, converted, hi, hvalue, rfl⟩ | ⟨_, _, -, -, -, rfl⟩
  · exact .nothing
  · have hworded := hinfo i hi
    have howner : (Owner.mk self i.name).reference.Worded P := hself
    have hconverted := convertValue_within hm howner hworded.name i.valueType raw
      hworded.valueType hvalue
    refine ⟨fun a ha => ?_, hconverted.attachments⟩
    obtain rfl := List.mem_singleton.mp ha
    exact ⟨hworded.name, hconverted.literals⟩
  · exact .nothing

theorem propertiesBy_within (hm : s.mapping.Worded P) (hself : self.Worded P)
    {entry : String → Except MappingDefect (Option AttributeInfo)}
    (hentry : ∀ name i, entry name = .ok (some i) → i.Worded P) {label : String → String}
    (members : Members) {v w : Variables} {collected : Collected}
    (h : (s.propertiesBy self entry label members).outcome v = (.ok collected, w)) :
    collected.toGathered.Within P := by
  induction members generalizing v collected with
  | nil =>
    obtain ⟨rfl, -⟩ := pure_eq_ok.mp h
    exact .nothing
  | cons member rest ih =>
    obtain ⟨name, raw⟩ := member
    obtain ⟨info, first, others, u, hinfo, hfirst, hothers, rfl⟩ := propertiesBy_cons_ok h
    have hworded : ∀ i, info = some i → i.Worded P := by
      rintro i rfl
      exact hentry name i hinfo
    exact (property_within hm hself hworded hfirst).append (ih hothers)

theorem properties_within (hm : s.mapping.Worded P) (hself : self.Worded P)
    {roleplayers : List String} {extensions : Option Members}
    (h : (s.properties self roleplayers extensions).outcome v = (.ok collected, w)) :
    collected.toGathered.Within P := by
  obtain ⟨own, u, relevant, hown, -, hrest⟩ := properties_eq_ok.mp h
  have hwithin := propertiesBy_within hm hself (fun _ _ hi => hm.attribute? hi) _ hown
  rcases hrest with ⟨-, rfl, -⟩ | ⟨name, members, more, -, -, hmore, rfl⟩
  · exact hwithin
  · exact hwithin.append
      (propertiesBy_within hm hself (fun _ _ hi => hm.extensionAttribute? hi) members hmore)

/-- Objects that are matched are written with the words for their types. -/
theorem matchIds_within (hm : s.mapping.Worded P) {property : String} (ids : List String)
    {v w : Variables} {entities : List Entity}
    (h : (s.matchIds property ids).outcome v = (.ok entities, w)) :
    ∀ e ∈ entities, (Thing.entity e).Within (.matching P) := by
  induction ids generalizing v entities with
  | nil =>
    obtain ⟨rfl, -⟩ := pure_eq_ok.mp h
    exact fun _ he => absurd he List.not_mem_nil
  | cons id rest ih =>
    obtain ⟨playerType, supertype, others, -, hsuper, hothers, rfl⟩ := matchIds_cons_ok h
    intro e he
    rcases List.mem_cons.mp he with rfl | he
    · exact Entity.matching_within _ (hm.supertype hsuper) id
    · exact ih hothers e he

theorem players_within (hm : s.mapping.Worded P) {typeName : String} (properties : List String)
    {v w : Variables} {players : List (String × Entity)}
    (h : (s.players typeName properties).outcome v = (.ok players, w)) :
    ∀ p ∈ players, P p.1 ∧ (Thing.entity p.2).Within (.matching P) := by
  induction properties generalizing v players with
  | nil =>
    obtain ⟨rfl, -⟩ := pure_eq_ok.mp h
    exact fun _ hp => absurd hp List.not_mem_nil
  | cons property rest ih =>
    rcases players_cons_ok h with
      ⟨-, hothers⟩ | ⟨raw, ids, role, entities, others, u, -, -, hrole, hmatch, hothers, rfl⟩
    · exact ih hothers
    · intro p hp
      rcases List.mem_append.mp hp with hp | hp
      · obtain ⟨e, he, rfl⟩ := List.mem_map.mp hp
        exact ⟨hm.role hrole, matchIds_within hm ids hmatch e he⟩
      · exact ih hothers p hp

/-- Casting players adds roles that are words of the mapping, and variables. -/
theorem foldl_addPlayer_within {players : List (String × Entity)}
    (hplayers : ∀ p ∈ players, P p.1 ∧ (Thing.entity p.2).Within (.matching P)) {r : Relation}
    (hr : (Thing.relation r).Within (.own P)) :
    (Thing.relation (players.foldl (fun r p => r.addPlayer p.1 p.2.var) r)).Within (.own P) := by
  induction players generalizing r with
  | nil => exact hr
  | cons p rest ih =>
    obtain ⟨hrole, hplayer⟩ := hplayers p List.mem_cons_self
    exact ih (fun q hq => hplayers q (List.mem_cons_of_mem _ hq)) (hr.addPlayer hrole hplayer.var)

/-- The relation that stands for an object is written with the words of the mapping. -/
theorem mainRelation_within (n : Nat) {typeName : String} (htype : P typeName)
    {players : List (String × Entity)}
    (hplayers : ∀ p ∈ players, P p.1 ∧ (Thing.entity p.2).Within (.matching P))
    {attributes : List (String × List String)} (hattributes : FiledUnder P attributes) :
    (s.mainRelation n typeName players attributes).Within P := by
  have hnamed : ∀ value ∈ s.relationName typeName, IsValue value := by
    intro value hvalue
    unfold relationName at hvalue
    split at hvalue
    · obtain ⟨text, -, rfl⟩ := List.mem_map.mp hvalue
      exact isValue_quote text
    · cases hvalue
  have hnew := Thing.within_relation (l := .own P) (isVariable_nameOf n) htype
  have hplayed := foldl_addPlayer_within hplayers hnew
  refine ⟨.foldl_relation hattributes.own
    (hplayed.addAttributes_relation Lexicon.own_relationName hnamed), ?_⟩
  intro e he
  obtain ⟨p, hp, rfl⟩ := List.mem_map.mp he
  exact (hplayers p hp).2

theorem draft_within (hm : s.mapping.Worded P) {objectClass : ObjectClass} {draft : Draft}
    {skipped : List Skipped}
    (h : (s.draft objectClass).outcome v = (.ok (draft, skipped), w)) : draft.Within P := by
  obtain ⟨extensions, typeName, -, htarget, h⟩ := draft_eq_ok.mp h
  have htype := hm.targetType? htarget
  split at h
  · obtain ⟨roleplayers, players, u, collected, -, hplayers, -, hcollected, hdrafted⟩ :=
      relationDraft_eq_ok.mp h
    obtain ⟨rfl, -⟩ := Prod.mk.inj hdrafted
    have hself := Reference.worded_known v.issued htype (some s.stixId)
    have hwithin := properties_within hm hself hcollected
    refine ⟨fun main hmain => ?_, hwithin.attachments⟩
    obtain rfl := Option.some.inj hmain
    exact mainRelation_within v.issued htype (players_within hm roleplayers hplayers)
      hwithin.attributes
  · obtain ⟨collected, hcollected, hdrafted⟩ := entityDraft_eq_ok.mp h
    obtain ⟨rfl, -⟩ := Prod.mk.inj hdrafted
    have hself := Reference.worded_known v.issued htype (some s.stixId)
    have hwithin := properties_within hm hself hcollected
    refine ⟨fun main hmain => ?_, hwithin.attachments⟩
    obtain rfl := Option.some.inj hmain
    exact Thing.Within.foldl_entity hwithin.attributes.own
      (Thing.within_entity (isVariable_nameOf v.issued) htype)

end Subject

/-! ## Statements -/

/-- The statement of the helpers inserts them and their ties, and nothing else. -/
theorem Attachments.Within.helperStatement {a : Attachments} (h : a.Within P) :
    ∀ t ∈ a.helperStatement.inserted, t.Within (.own P) := by
  intro t ht
  obtain ⟨helper, hhelper, ht⟩ := List.mem_flatMap.mp ht
  obtain ⟨hentity, hrelation⟩ := h.helpers helper hhelper
  rcases List.mem_cons.mp ht with rfl | ht
  · exact hentity
  · obtain rfl := List.mem_singleton.mp ht
    exact hrelation

/-- The statement of the links matches their ends and inserts the links. -/
theorem Attachments.Within.linkStatement {a : Attachments} (h : a.Within P) :
    a.linkStatement.Within (.matching P) (.links P) where
  matched := by
    intro t ht
    obtain ⟨l, hl, ht⟩ := List.mem_flatMap.mp ht
    obtain ⟨howner, htarget, -⟩ := h.links l hl
    rcases List.mem_cons.mp ht with rfl | ht
    · exact howner
    · obtain rfl := List.mem_singleton.mp ht
      exact htarget
  inserted := by
    intro t ht
    obtain ⟨l, hl, rfl⟩ := List.mem_map.mp ht
    exact (h.links l hl).2.2

/-- The statement of the main thing matches its players and inserts it. -/
theorem MainThing.Within.statement {main : MainThing} (h : main.Within P) :
    main.statement.Within (.matching P) (.own P) := by
  cases main with
  | entity e =>
    refine ⟨fun _ ht => absurd ht List.not_mem_nil, fun t ht => ?_⟩
    obtain rfl := List.mem_singleton.mp ht
    exact h
  | relation r players =>
    refine ⟨fun t ht => ?_, fun t ht => ?_⟩
    · obtain ⟨e, he, rfl⟩ := List.mem_map.mp ht
      exact h.2 e he
    · obtain rfl := List.mem_singleton.mp ht
      exact h.1

/-- The main statement of a draft, with its helpers. -/
theorem Draft.Within.mainStatement {d : Draft} (h : d.Within P) {main : MainThing}
    (hmain : d.main = some main) :
    (main.statement ++ d.helperStatement).Within (.matching P) (.own P) := by
  have hstatement := (h.main main hmain).statement
  refine ⟨fun t ht => ?_, fun t ht => ?_⟩
  · rcases List.mem_append.mp ht with ht | ht
    · exact hstatement.matched t ht
    · cases ht
  · rcases List.mem_append.mp ht with ht | ht
    · exact hstatement.inserted t ht
    · exact h.attachments.helperStatement t ht

theorem OrderedStatements.Within.nothing : ({} : OrderedStatements).Within P where
  entities := by simp
  relations := by simp
  embedded := by simp

theorem Draft.Within.order {d : Draft} (h : d.Within P) {statements : OrderedStatements}
    (horder : d.order = .ok statements) : statements.Within P := by
  have hlinks : ∀ statement ∈ d.linkStatement.nonempty?,
      statement.Within (.matching P) (.links P) := by
    intro statement hstatement
    unfold Statement.nonempty? at hstatement
    split at hstatement
    · cases hstatement
    · obtain rfl := Option.some.inj hstatement
      exact h.attachments.linkStatement
  rw [Draft.order_eq] at horder
  split at horder
  · next e hmain =>
    obtain rfl := Except.ok.inj horder
    refine ⟨fun statement hstatement => ?_, by simp, hlinks⟩
    obtain rfl := Option.some.inj hstatement
    exact h.mainStatement hmain
  · next r players hmain =>
    obtain rfl := Except.ok.inj horder
    refine ⟨by simp, fun statement hstatement => ?_, hlinks⟩
    obtain rfl := Option.some.inj hstatement
    exact h.mainStatement hmain
  · -- without a main thing there are no statements, or an error
    split at horder
    · obtain rfl := Except.ok.inj horder
      exact .nothing
    · cases horder

/-- **Texts of objects stay in literals.** Whatever the texts that a mapping is read from and
whatever the object, if the object is converted, then in its statements all variables are those of
the supply, all attribute values are literals or tokens, and all other words stand in the texts of
the mapping, but for the two attribute names that are fixed. -/
theorem convertObject_contained {texts : Table String} {m : Mapping}
    (hm : Mapping.ofTexts texts = .ok m) {strict : Bool} {object : Members} {c : Conversion}
    (h : convertObject m strict object = .ok c) : c.statements.Within (Stated texts) := by
  obtain ⟨s, hs, h⟩ := convertObject_ok h
  have hworded : s.mapping.Worded (Stated texts) := by
    obtain ⟨stixId, stixType, -, -, rfl⟩ := Subject.identify_eq_ok.mp hs
    exact Mapping.worded_ofTexts hm
  rcases Subject.convert_ok h with ⟨-, rfl⟩ |
    ⟨objectClass, draft, skipped, w, statements, -, hdraft, horder, rfl⟩
  · exact .nothing
  · exact (Subject.draft_within hworded hdraft).order horder

/-- The texts of a small mapping: tools with an identifier and a list of makers. -/
def makerTexts : Table String :=
  [("classes.json", "[[\"tool\"]]"),
    ("sdos.json", "\x7b\"tool\": [\"tool\", null, \x7b\x7d, " ++
      "\x7b\"makers\": [\"made::maker\", \"list:relation:making\"]\x7d]\x7d"),
    ("sros.json", "\x7b\x7d"), ("scos.json", "\x7b\x7d"), ("smos.json", "\x7b\x7d"),
    ("common_attributes.json", "\x7b\"id\": [\"stix-id\", \"string\"]\x7d"),
    ("composites.json", "\x7b\x7d"), ("sros_roles.json", "\x7b\x7d"),
    ("key-value-pairs.json", "\x7b\x7d"),
    ("dictionary.json",
      "[\"key\", \"property\", [\"entry\", \"holder\", \"held\"], \x7b\x7d]")]

/-- The mapping that they state. -/
def makerMapping : Mapping where
  classes := [("tool", .domain)]
  objects :=
    [("tool",
      { typeName := "tool"
        attributes := [("makers", ⟨"made::maker", .list (.relation "making"), none⟩)] })]
  common := [("id", ⟨"stix-id", .scalar .string, none⟩)]
  composites := []
  roles := []
  keyValues := []
  dictionary := ⟨"key", "property", ⟨"entry", "holder", "held"⟩, []⟩

/-- A tool whose texts go on like statements. -/
def hostileTool : Members :=
  [("id", .string "tool--1\";\ninsert $x isa tool"), ("type", .string "tool"),
    ("makers", .array [.string "tool--2\", has stix-id \""])]

/-- The texts of the tool do not leave their literals. -/
theorem convertObject_contained_hostile : ∃ c, Mapping.ofTexts makerTexts = .ok makerMapping ∧
    convertObject makerMapping true hostileTool = .ok c ∧
    c.statements.embedded.map Statement.text = some (.ok
      ("match\n$v2 isa tool, has stix-id \"tool--1';\ninsert $x isa tool\";\n" ++
        "$v1 isa tool, has stix-id \"tool--2', has stix-id '\";\n" ++
        "insert\n$v3 (made: $v2, maker: $v1) isa making;\n")) ∧
    c.statements.Within (Stated makerTexts) := by
  have hm : Mapping.ofTexts makerTexts = .ok makerMapping := by cbv
  have hrun : ∃ c, convertObject makerMapping true hostileTool = .ok c ∧
      c.statements.embedded.map Statement.text = some (.ok
        ("match\n$v2 isa tool, has stix-id \"tool--1';\ninsert $x isa tool\";\n" ++
          "$v1 isa tool, has stix-id \"tool--2', has stix-id '\";\n" ++
          "insert\n$v3 (made: $v2, maker: $v1) isa making;\n")) := ⟨_, rfl, by decide +kernel⟩
  obtain ⟨c, hc, htext⟩ := hrun
  exact ⟨c, hm, hc, htext, convertObject_contained hm hc⟩

end ThreatGraph
