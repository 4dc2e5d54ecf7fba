import Mathlib
import ThreatGraph.Proofs.Agreement

/-!
# The verdict on documents

Whether documents make a mapping is decided by what they say (`Mapping.ofTexts_verdict`): they do if
they agree, and documents that list the same entries in another order, at any level, agree as well.

Being in another order is defined along the documents: tables by their entries (`Table.Reordered`),
records field by field. It is symmetric, so that one direction is enough: what agrees still agrees
when it is put in another order (`Documents.Reordered.agree_of`), condition by condition of
`Documents.Agree`, as none of them asks where an entry stands.
-/

namespace ThreatGraph

/-! ## The same entries in another order -/

/-- The tables list the same names in some order, each with entries that `R` relates. -/
def Table.Reordered {α : Type} (R : α → α → Prop) (t t' : Table α) : Prop :=
  Multiset.Rel (fun entry entry' : String × α => entry.1 = entry'.1 ∧ R entry.2 entry'.2) t t'

/-- The lists of types, each in some order. -/
structure Classes.Reordered (c c' : Classes) : Prop where
  domain : c.domain.Perm c'.domain
  relationship : c.relationship.Perm c'.relationship
  cyberObservable : c.cyberObservable.Perm c'.cyberObservable
  metaObject : c.metaObject.Perm c'.metaObject

/-- The choices by the values of the property, in some order. -/
structure SubtypeTable.Reordered (t t' : SubtypeTable) : Prop where
  property : t.property = t'.property
  values : t.values.Perm t'.values

/-- The attributes of the extension, in some order. -/
structure ExtensionMapping.Reordered (e e' : ExtensionMapping) : Prop where
  typeName : e.typeName = e'.typeName
  attributes : e.attributes.Perm e'.attributes

/-- The subtypes, extensions and attributes of the object type, in some order. -/
structure ObjectMapping.Reordered (o o' : ObjectMapping) : Prop where
  typeName : o.typeName = o'.typeName
  subtypes : Option.Rel SubtypeTable.Reordered o.subtypes o'.subtypes
  extensions : Table.Reordered ExtensionMapping.Reordered o.extensions o'.extensions
  attributes : o.attributes.Perm o'.attributes

/-- The attributes of the schema, in some order. -/
structure CompositeMapping.Reordered (c c' : CompositeMapping) : Prop where
  typeName : c.typeName = c'.typeName
  attributes : c.attributes.Perm c'.attributes
  relation : c.relation = c'.relation

/-- The keys of the schema, in some order. -/
structure KeyValueMapping.Reordered (k k' : KeyValueMapping) : Prop where
  valueType : k.valueType = k'.valueType
  valueAttribute : k.valueAttribute = k'.valueAttribute
  keys : k.keys.Perm k'.keys
  relation : k.relation = k'.relation
  custom : k.custom = k'.custom

/-- The items of the dictionary, in some order. -/
structure DictionaryMapping.Reordered (m m' : DictionaryMapping) : Prop where
  keyAttribute : m.keyAttribute = m'.keyAttribute
  propertyAttribute : m.propertyAttribute = m'.propertyAttribute
  relation : m.relation = m'.relation
  items : m.items.Perm m'.items

/-- The documents list the same entries, each document in some order. -/
structure Documents.Reordered (d d' : Documents) : Prop where
  classes : d.classes.Reordered d'.classes
  domainObjects : Table.Reordered ObjectMapping.Reordered d.domainObjects d'.domainObjects
  relationshipObjects :
    Table.Reordered ObjectMapping.Reordered d.relationshipObjects d'.relationshipObjects
  cyberObservables : Table.Reordered ObjectMapping.Reordered d.cyberObservables d'.cyberObservables
  metaObjects : Table.Reordered ObjectMapping.Reordered d.metaObjects d'.metaObjects
  commonAttributes : d.commonAttributes.Perm d'.commonAttributes
  composites : Table.Reordered CompositeMapping.Reordered d.composites d'.composites
  relationRoles : Table.Reordered List.Perm d.relationRoles d'.relationRoles
  keyValues : Table.Reordered KeyValueMapping.Reordered d.keyValues d'.keyValues
  dictionary : d.dictionary.Reordered d'.dictionary

namespace Table.Reordered

variable {α : Type} {R : α → α → Prop} {t t' u u' : Table α}

/-- A relation that can be turned round can be turned round for tables. -/
theorem symm (hR : ∀ a b, R a b → R b a) (h : Table.Reordered R t t') : Table.Reordered R t' t :=
  (Multiset.rel_flip.mpr h).mono fun _ _ _ _ h => ⟨h.1.symm, hR _ _ h.2⟩

/-- Tables that are each in another order are so together. -/
theorem append (h : Table.Reordered R t t') (h' : Table.Reordered R u u') :
    Table.Reordered R (t ++ u) (t' ++ u') := by
  rw [Table.Reordered, ← Multiset.coe_add, ← Multiset.coe_add]
  exact h.add h'

/-- Every entry is in the other table too. -/
theorem exists_mem (h : Table.Reordered R t t') {name : String} {a : α} (hmem : (name, a) ∈ t) :
    ∃ a', (name, a') ∈ t' ∧ R a a' := by
  obtain ⟨⟨_, a'⟩, hmem', rfl, ha⟩ := Multiset.exists_mem_of_rel_of_mem h hmem
  exact ⟨a', hmem', ha⟩

/-- No name is lost. -/
theorem names_subset (h : Table.Reordered R t t') : Table.names t ⊆ Table.names t' := by
  intro name hname
  obtain ⟨a, ha⟩ := Table.mem_names_iff.mp hname
  obtain ⟨a', ha', -⟩ := h.exists_mem ha
  exact Table.mem_names_iff.mpr ⟨a', ha'⟩

end Table.Reordered

/-! ### Back to the first order -/

/-- Subtypes can be put back in their order. -/
theorem SubtypeTable.Reordered.symm {t t' : SubtypeTable} (h : t.Reordered t') : t'.Reordered t :=
  ⟨h.property.symm, h.values.symm⟩

theorem ExtensionMapping.Reordered.symm {e e' : ExtensionMapping} (h : e.Reordered e') :
    e'.Reordered e :=
  ⟨h.typeName.symm, h.attributes.symm⟩

theorem ObjectMapping.Reordered.symm {o o' : ObjectMapping} (h : o.Reordered o') :
    o'.Reordered o where
  typeName := h.typeName.symm
  subtypes := by
    have hsubtypes := h.subtypes
    generalize o.subtypes = table, o'.subtypes = table' at hsubtypes ⊢
    cases hsubtypes with
    | none => exact .none
    | some htable => exact .some htable.symm
  extensions := h.extensions.symm fun _ _ => ExtensionMapping.Reordered.symm
  attributes := h.attributes.symm

theorem CompositeMapping.Reordered.symm {c c' : CompositeMapping} (h : c.Reordered c') :
    c'.Reordered c :=
  ⟨h.typeName.symm, h.attributes.symm, h.relation.symm⟩

theorem KeyValueMapping.Reordered.symm {k k' : KeyValueMapping} (h : k.Reordered k') :
    k'.Reordered k :=
  ⟨h.valueType.symm, h.valueAttribute.symm, h.keys.symm, h.relation.symm, h.custom.symm⟩

namespace Documents.Reordered

variable {d d' : Documents} (h : d.Reordered d')
include h

/-- Whatever was put into another order can be put back. -/
theorem symm : d'.Reordered d where
  classes := ⟨h.classes.domain.symm, h.classes.relationship.symm, h.classes.cyberObservable.symm,
    h.classes.metaObject.symm⟩
  domainObjects := h.domainObjects.symm fun _ _ => ObjectMapping.Reordered.symm
  relationshipObjects := h.relationshipObjects.symm fun _ _ => ObjectMapping.Reordered.symm
  cyberObservables := h.cyberObservables.symm fun _ _ => ObjectMapping.Reordered.symm
  metaObjects := h.metaObjects.symm fun _ _ => ObjectMapping.Reordered.symm
  commonAttributes := h.commonAttributes.symm
  composites := h.composites.symm fun _ _ => CompositeMapping.Reordered.symm
  relationRoles := h.relationRoles.symm fun _ _ => List.Perm.symm
  keyValues := h.keyValues.symm fun _ _ => KeyValueMapping.Reordered.symm
  dictionary := ⟨h.dictionary.keyAttribute.symm, h.dictionary.propertyAttribute.symm,
    h.dictionary.relation.symm, h.dictionary.items.symm⟩

/-- The tables of all four classes together are in another order too. -/
theorem objects : Table.Reordered ObjectMapping.Reordered d.objects d'.objects :=
  ((h.domainObjects.append h.relationshipObjects).append h.cyberObservables).append h.metaObjects

/-- So are the types that have a class. -/
theorem types : d.classes.types.Perm d'.classes.types :=
  ((h.classes.domain.append h.classes.relationship).append h.classes.cyberObservable).append
    h.classes.metaObject

end Documents.Reordered

/-! ## Agreement does not hang on the order -/

/-- What an object type can be stored as does not depend on the order of its subtypes and
extensions. -/
theorem ObjectMapping.Becomes.reordered {o o' : ObjectMapping} {typeName : String}
    (h : o.Reordered o') (hbecomes : o.Becomes typeName) : o'.Becomes typeName := by
  obtain ⟨htype, hsubtypes, hextensions, -⟩ := h
  cases hbecomes with
  | itself hnone =>
    rw [hnone] at hsubtypes
    cases hsubtypes' : o'.subtypes with
    | none => exact htype ▸ .itself hsubtypes'
    | some table => rw [hsubtypes'] at hsubtypes; cases hsubtypes
  | subtype htable hvalue =>
    rw [htable] at hsubtypes
    cases hsubtypes' : o'.subtypes with
    | none => rw [hsubtypes'] at hsubtypes; cases hsubtypes
    | some table =>
      rw [hsubtypes'] at hsubtypes
      cases hsubtypes with
      | some hreordered => exact .subtype hsubtypes' (hreordered.values.mem_iff.mp hvalue)
  | extension hextension htype =>
    obtain ⟨e', he', halike⟩ := hextensions.exists_mem hextension
    exact .extension he' (halike.typeName ▸ htype)

namespace Documents.Reordered

variable {d d' : Documents}

/-- An attribute entry that is somewhere in documents is somewhere in those in another order. -/
theorem hasAttribute (h : d.Reordered d') {info : AttributeInfo} (hinfo : d.HasAttribute info) :
    d'.HasAttribute info := by
  cases hinfo with
  | common hinfo => exact .common (h.commonAttributes.mem_iff.mp hinfo)
  | object ho hinfo =>
    obtain ⟨o', ho', halike⟩ := h.objects.exists_mem ho
    exact .object ho' (halike.attributes.mem_iff.mp hinfo)
  | extension ho he hinfo =>
    obtain ⟨o', ho', halike⟩ := h.objects.exists_mem ho
    obtain ⟨e', he', halike'⟩ := halike.extensions.exists_mem he
    exact .extension ho' he' (halike'.attributes.mem_iff.mp hinfo)
  | composite hc hinfo =>
    obtain ⟨c', hc', halike⟩ := h.composites.exists_mem hc
    exact .composite hc' (halike.attributes.mem_iff.mp hinfo)

/-- What an attribute entry refers to is found in documents in another order. -/
theorem resolves (h : d.Reordered d') {info : AttributeInfo} (hinfo : d.Resolves info) :
    d'.Resolves info where
  composite schema htype := h.composites.names_subset (hinfo.composite schema htype)
  keyValue schema htype := h.keyValues.names_subset (hinfo.keyValue schema htype)
  relation := hinfo.relation

/-- Tables that map different types do so in another order. -/
theorem mappedOnce (h : d.Reordered d')
    (hmapped : [d.domainObjects, d.relationshipObjects, d.cyberObservables,
      d.metaObjects].Pairwise fun t t' => (Table.names t).Disjoint (Table.names t')) :
    [d'.domainObjects, d'.relationshipObjects, d'.cyberObservables,
      d'.metaObjects].Pairwise fun t t' => (Table.names t).Disjoint (Table.names t') := by
  have hdisjoint {t t' u u' : Table ObjectMapping} (ht : Table.names u ⊆ Table.names t)
      (ht' : Table.names u' ⊆ Table.names t') (h : (Table.names t).Disjoint (Table.names t')) :
      (Table.names u).Disjoint (Table.names u') :=
    List.disjoint_of_subset_left ht (List.disjoint_of_subset_right ht' h)
  have hdomain := h.symm.domainObjects.names_subset
  have hrelationship := h.symm.relationshipObjects.names_subset
  have hobservable := h.symm.cyberObservables.names_subset
  have hmeta := h.symm.metaObjects.names_subset
  simp only [List.pairwise_cons, List.forall_mem_cons, List.not_mem_nil, false_implies,
    implies_true, List.Pairwise.nil, and_true] at hmapped ⊢
  obtain ⟨⟨h₁, h₂, h₃⟩, ⟨h₄, h₅⟩, h₆⟩ := hmapped
  exact ⟨⟨hdisjoint hdomain hrelationship h₁, hdisjoint hdomain hobservable h₂,
    hdisjoint hdomain hmeta h₃⟩, ⟨hdisjoint hrelationship hobservable h₄,
    hdisjoint hrelationship hmeta h₅⟩, hdisjoint hobservable hmeta h₆⟩

/-- Documents in another order agree if the first ones do, as no part of agreement looks at an
order. -/
theorem agree_of (h : d.Reordered d') (hagree : d.Agree) : d'.Agree where
  mappedOnce := h.mappedOnce hagree.mappedOnce
  classedOnce := h.types.nodup_iff.mp hagree.classedOnce
  sameTypes stixType := by
    have hnames : stixType ∈ Table.names d.objects ↔ stixType ∈ Table.names d'.objects :=
      ⟨fun hname => h.objects.names_subset hname, fun hname => h.symm.objects.names_subset hname⟩
    rw [← h.types.mem_iff, hagree.sameTypes, hnames]
  roles stixType o' relationType property info hclass ho' hbecomes hinfo hplayer := by
    obtain ⟨o, ho, halike⟩ := h.symm.objects.exists_mem ho'
    obtain ⟨roles, role, hroles, hrole⟩ := hagree.roles stixType o relationType property info
      (h.classes.relationship.mem_iff.mpr hclass) ho (hbecomes.reordered halike)
      (halike.attributes.mem_iff.mp hinfo) hplayer
    obtain ⟨roles', hroles', hperm⟩ := h.relationRoles.exists_mem hroles
    exact ⟨roles', role, hroles', hperm.mem_iff.mp hrole⟩
  attributes info hinfo := h.resolves (hagree.attributes info (h.symm.hasAttribute hinfo))
  keyValues schema k' hk' := by
    obtain ⟨k, hk, halike⟩ := h.symm.keyValues.exists_mem hk'
    rw [halike.valueType]
    exact hagree.keyValues schema k hk
  items tag item hitem := hagree.items tag item (h.dictionary.items.mem_iff.mpr hitem)

end Documents.Reordered

/-- **The verdict on documents.** Texts make a mapping exactly if they are ten documents that agree,
and it holds what these say. Documents that list the same entries in another order have the same
verdict. -/
theorem Mapping.ofTexts_verdict :
    (∀ (texts : Table String) (m : Mapping), ofTexts texts = .ok m ↔
      ∃ d : Documents, Sources.ofTexts texts = d.sources ∧ d.Agree ∧ m = d.mapping) ∧
    ∀ (texts texts' : Table String) (d d' : Documents), Sources.ofTexts texts = d.sources →
      Sources.ofTexts texts' = d'.sources → d.Reordered d' →
      ((∃ m, ofTexts texts = .ok m) ↔ ∃ m, ofTexts texts' = .ok m) := by
  have hverdict {texts : Table String} {d : Documents} (hd : Sources.ofTexts texts = d.sources) :
      (∃ m, ofTexts texts = .ok m) ↔ d.Agree := by
    simp only [ofTexts_eq_ok_iff]
    constructor
    · rintro ⟨m, other, hother, hagree, -⟩
      obtain rfl := Documents.sources_injective (hd.symm.trans hother)
      exact hagree
    · exact fun hagree => ⟨d.mapping, d, hd, hagree, rfl⟩
  refine ⟨fun texts m => ofTexts_eq_ok_iff, fun texts texts' d d' hd hd' h => ?_⟩
  rw [hverdict hd, hverdict hd']
  exact ⟨h.agree_of, h.symm.agree_of⟩

/-- The texts of a mapping of tools and parties, which are listed in the order that is given. -/
def listedTexts (classes objects : String) : Table String :=
  [("classes.json", "[[" ++ classes ++ "]]"), ("sdos.json", "\x7b" ++ objects ++ "\x7d"),
    ("sros.json", "\x7b\x7d"), ("scos.json", "\x7b\x7d"), ("smos.json", "\x7b\x7d"),
    ("common_attributes.json", "\x7b\x7d"), ("composites.json", "\x7b\x7d"),
    ("sros_roles.json", "\x7b\x7d"), ("key-value-pairs.json", "\x7b\x7d"),
    ("dictionary.json",
      "[\"key\", \"property\", [\"entry\", \"holder\", \"held\"], \x7b\x7d]")]

/-- Tools come first, and their names before their aliases. -/
def toolsFirstTexts : Table String :=
  listedTexts "\"tool\", \"identity\"" ("\"tool\": [\"tool\", null, \x7b\x7d, \x7b" ++
    "\"name\": [\"name\", \"string\"], \"alias\": [\"alias\", \"string\"]\x7d], " ++
    "\"identity\": [\"party\", null, \x7b\x7d, \x7b\x7d]")

/-- All of this the other way round. -/
def toolsLastTexts : Table String :=
  listedTexts "\"identity\", \"tool\"" ("\"identity\": [\"party\", null, \x7b\x7d, \x7b\x7d], " ++
    "\"tool\": [\"tool\", null, \x7b\x7d, \x7b\"alias\": [\"alias\", \"string\"], " ++
    "\"name\": [\"name\", \"string\"]\x7d]")

/-- The entry of a property with texts that is stored under its own name. -/
def textEntry (name : String) : String × AttributeInfo := (name, ⟨name, .scalar .string, none⟩)

/-- What the first texts state. -/
def toolsFirst : Documents where
  classes := { domain := ["tool", "identity"] }
  domainObjects :=
    [("tool", { typeName := "tool", attributes := [textEntry "name", textEntry "alias"] }),
      ("identity", { typeName := "party" })]
  dictionary := ⟨"key", "property", ⟨"entry", "holder", "held"⟩, []⟩

/-- What the other texts state. -/
def toolsLast : Documents where
  classes := { domain := ["identity", "tool"] }
  domainObjects :=
    [("identity", { typeName := "party" }),
      ("tool", { typeName := "tool", attributes := [textEntry "alias", textEntry "name"] })]
  dictionary := ⟨"key", "property", ⟨"entry", "holder", "held"⟩, []⟩

/-- Types of objects, their classes and the properties of tools have changed places. -/
theorem reordered_tools : toolsFirst.Reordered toolsLast := by
  have hnothing {α : Type} (R : α → α → Prop) : Table.Reordered R [] [] := Multiset.Rel.zero
  have hnone : Option.Rel SubtypeTable.Reordered none none := .none
  have hobjects : Table.Reordered ObjectMapping.Reordered toolsFirst.domainObjects
      toolsLast.domainObjects := by
    have hlast : (toolsLast.domainObjects : Multiset (String × ObjectMapping)) =
        toolsLast.domainObjects.reverse := (Multiset.coe_reverse _).symm
    rw [Table.Reordered, hlast]
    exact .cons ⟨rfl, rfl, hnone, hnothing _, .swap ..⟩
      (.cons ⟨rfl, rfl, hnone, hnothing _, .refl _⟩ .zero)
  exact
    { classes := ⟨.swap .., .refl _, .refl _, .refl _⟩
      domainObjects := hobjects
      relationshipObjects := hnothing _
      cyberObservables := hnothing _
      metaObjects := hnothing _
      commonAttributes := .refl _
      composites := hnothing _
      relationRoles := hnothing _
      keyValues := hnothing _
      dictionary := ⟨rfl, rfl, rfl, .refl _⟩ }

/-- Tools and parties make a mapping in either order. -/
theorem Mapping.ofTexts_verdict_tools :
    Sources.ofTexts toolsFirstTexts = toolsFirst.sources ∧
      Sources.ofTexts toolsLastTexts = toolsLast.sources ∧ toolsFirst.Reordered toolsLast ∧
      toolsFirst.Agree ∧ ∃ m, ofTexts toolsLastTexts = .ok m := by
  have hfirst : Sources.ofTexts toolsFirstTexts = toolsFirst.sources := by cbv
  have hlast : Sources.ofTexts toolsLastTexts = toolsLast.sources := by cbv
  have hm : ofTexts toolsFirstTexts = .ok toolsFirst.mapping := by cbv
  obtain ⟨d, hd, hagree, -⟩ := (ofTexts_verdict.1 _ _).mp hm
  obtain rfl := Documents.sources_injective (hfirst.symm.trans hd)
  exact ⟨hfirst, hlast, reordered_tools, hagree,
    (ofTexts_verdict.2 _ _ _ _ hfirst hlast reordered_tools).mp ⟨_, hm⟩⟩

end ThreatGraph
