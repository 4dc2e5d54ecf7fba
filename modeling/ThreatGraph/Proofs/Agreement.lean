import ThreatGraph.Proofs.Tables
import ThreatGraph.Proofs.Vocabulary

/-!
# Which documents make a mapping

Ten documents that can be decoded make a mapping exactly if they agree
(`Mapping.ofTexts_eq_ok_iff`). What it means to agree is said of the entries of the documents, in
whatever order they stand (`Documents.Agree`): object types are mapped once and have one class,
relationships have the roles that they need, and what attribute entries refer to is there.

Every check that a mapping runs comes to nothing exactly if one condition holds of the entries, and
there is one lemma for each check. They are put together in `Mapping.defects_eq_nil_iff`. Look-ups
are replaced by membership on the way, which needs that decoded tables repeat no name
(`Documents.distinct_of_texts`).
-/

namespace ThreatGraph

/-! ## Agreement -/

/-- The types of the four classes. -/
def Classes.types (c : Classes) : List String :=
  c.domain ++ c.relationship ++ c.cyberObservable ++ c.metaObject

/-- What the objects of a STIX type can be stored as: as any type of the subtype table, or without
one as the type itself, and as the type of any extension that has one. -/
inductive ObjectMapping.Becomes (o : ObjectMapping) : String → Prop where
  | itself : o.subtypes = none → Becomes o o.typeName
  | subtype {table : SubtypeTable} {value typeName : String} :
    o.subtypes = some table → (value, typeName) ∈ table.values → Becomes o typeName
  | extension {name typeName : String} {e : ExtensionMapping} :
    (name, e) ∈ o.extensions → e.typeName = some typeName → Becomes o typeName

namespace Documents

variable (d : Documents)

/-- The attribute entries of the documents: those that all types share, those of object types and of
their extensions, and those of nested objects. -/
inductive HasAttribute : AttributeInfo → Prop where
  | common {property : String} {info : AttributeInfo} :
    (property, info) ∈ d.commonAttributes → HasAttribute info
  | object {stixType property : String} {o : ObjectMapping} {info : AttributeInfo} :
    (stixType, o) ∈ d.objects → (property, info) ∈ o.attributes → HasAttribute info
  | extension {stixType extension property : String} {o : ObjectMapping} {e : ExtensionMapping}
    {info : AttributeInfo} :
    (stixType, o) ∈ d.objects → (extension, e) ∈ o.extensions → (property, info) ∈ e.attributes →
    HasAttribute info
  | composite {schema property : String} {c : CompositeMapping} {info : AttributeInfo} :
    (schema, c) ∈ d.composites → (property, info) ∈ c.attributes → HasAttribute info

/-- The schema that an attribute entry refers to is there, and the name under which references are
kept is a pair of roles. -/
structure Resolves (info : AttributeInfo) : Prop where
  composite : ∀ schema, info.valueType.elementType = .composite schema →
    schema ∈ Table.names d.composites
  keyValue : ∀ schema, info.valueType.elementType = .keyValue schema →
    schema ∈ Table.names d.keyValues
  relation : ∀ typeName, info.valueType.elementType = .relation typeName →
    ∃ ownerRole targetRole, info.name = ownerRole ++ "::" ++ targetRole

/-- The documents agree. -/
structure Agree : Prop where
  /-- no two documents map the same object type -/
  mappedOnce : [d.domainObjects, d.relationshipObjects, d.cyberObservables,
    d.metaObjects].Pairwise fun t t' => (Table.names t).Disjoint (Table.names t')
  /-- no object type is listed twice among the classes -/
  classedOnce : d.classes.types.Nodup
  /-- what has a class is mapped, and what is mapped has a class -/
  sameTypes : ∀ stixType, stixType ∈ d.classes.types ↔ stixType ∈ Table.names d.objects
  /-- relationships have a role for each of their role players, whatever they are stored as -/
  roles : ∀ stixType o relationType property info, stixType ∈ d.classes.relationship →
    (stixType, o) ∈ d.objects → o.Becomes relationType → (property, info) ∈ o.attributes →
    info.valueType = .roleplayer →
    ∃ roles role, (relationType, roles) ∈ d.relationRoles ∧ (property, role) ∈ roles
  /-- what attribute entries refer to is there -/
  attributes : ∀ info, d.HasAttribute info → d.Resolves info
  /-- the values of key-value schemas are single literals -/
  keyValues : ∀ schema k, (schema, k) ∈ d.keyValues → ∃ scalar, k.valueType = .scalar scalar
  /-- so are the values of dictionaries, by the tag of their type -/
  items : ∀ tag item, (tag, item) ∈ d.dictionary.items →
    ∃ scalar, ValueType.ofTag? tag = some (.scalar scalar)

/-- Tables in which look-ups are made repeat no name. -/
structure Distinct : Prop where
  domainObjects : (Table.names d.domainObjects).Nodup
  relationshipObjects : (Table.names d.relationshipObjects).Nodup
  cyberObservables : (Table.names d.cyberObservables).Nodup
  metaObjects : (Table.names d.metaObjects).Nodup
  relationRoles : (Table.names d.relationRoles).Nodup
  roles : ∀ relationType roles, (relationType, roles) ∈ d.relationRoles →
    (Table.names roles).Nodup

end Documents

/-! ## What is decoded repeats no name -/

/-- A table that is decoded lists no name twice, as the last of several entries stands. -/
theorem Decodes.distinct {P : String → Prop} {α : Type} (decode : Json → Option α) :
    Decodes P (Decoding.table? decode) fun t => (Table.names t).Nodup := by
  intro j t _ h
  cases j with
  | object members =>
    obtain ⟨entries, -, rfl⟩ := Option.map_eq_some_iff.mp h
    exact Table.nodup_ofPairs entries
  | _ => cases h

theorem Documents.distinct_of_texts {texts : Table String} {d : Documents}
    (h : Sources.ofTexts texts = d.sources) : d.Distinct := by
  simp only [Sources.ofTexts, Documents.sources, Sources.mk.injEq] at h
  obtain ⟨-, hdomain, hrelationship, hobservables, hmeta, -, -, hroles, -, -⟩ := h
  have hobjects {name : DocumentName} {t : Table ObjectMapping}
      (ht : decodeDocument texts name (Decoding.table? ObjectMapping.decode?) = .ok t) :=
    decodeDocument_ok (Decodes.distinct _) ht
  have hinner := decodeDocument_ok (Decodes.distinct Json.text?).table hroles
  exact ⟨hobjects hdomain, hobjects hrelationship, hobjects hobservables, hobjects hmeta,
    decodeDocument_ok (Decodes.distinct _) hroles, fun _ _ hmem => hinner _ hmem⟩

/-- The types with a class are those that the classes list. -/
theorem Classes.names_entries (c : Classes) : Table.names c.entries = c.types := by
  simp [entries, types, Table.names, Function.comp_def]

/-- A type has the class of relationships if it is listed among these. -/
theorem Classes.mem_entries_relationship {c : Classes} {stixType : String} :
    (stixType, ObjectClass.relationship) ∈ c.entries ↔ stixType ∈ c.relationship := by
  simp [entries]

theorem Documents.sources_injective : Function.Injective sources := by
  rintro ⟨⟩ ⟨⟩ h
  simpa [sources] using h

/-! ## What the absence of defects says -/

theorem Text.isSome_cutList?_append (before mark after : List Char) :
    (cutList? mark (before ++ mark ++ after)).isSome = true := by
  induction before with
  | nil =>
    cases hmark : mark ++ after with
    | nil =>
      obtain ⟨rfl, -⟩ := List.append_eq_nil_iff.mp hmark
      rw [List.nil_append, hmark]
      rfl
    | cons c rest =>
      rw [List.nil_append, hmark, cutList?, List.isPrefixOf?_eq_some_iff_append_eq.mpr hmark]
      rfl
  | cons c rest ih =>
    rw [List.cons_append, List.cons_append, cutList?]
    split
    · rfl
    · rw [Option.isSome_map, ih]

/-- A mark stands in the texts that have it between two parts. -/
theorem Text.contains_iff {mark s : String} :
    contains mark s = true ↔ ∃ before after, s = before ++ mark ++ after := by
  rw [contains, Option.isSome_iff_exists]
  constructor
  · rintro ⟨⟨before, after⟩, hcut⟩
    exact ⟨before, after, append_of_cut? hcut⟩
  · rintro ⟨before, after, rfl⟩
    rw [← Option.isSome_iff_exists, cut?, Option.isSome_map, String.toList_append,
      String.toList_append]
    exact isSome_cutList?_append _ _ _

theorem ValueType.isPrimitive_iff {type : ValueType} :
    type.isPrimitive = true ↔ ∃ scalar, type = .scalar scalar := by
  cases type <;> simp [isPrimitive]

namespace ObjectMapping

variable {o : ObjectMapping}

/-- The types that a relationship is stored as are those that the mapping can make of it. -/
theorem mem_relationTypes_iff {typeName : String} :
    typeName ∈ o.relationTypes ↔ o.Becomes typeName := by
  rw [relationTypes, List.mem_append, List.mem_filterMap]
  constructor
  · rintro (hown | ⟨⟨name, e⟩, hextension, htype⟩)
    · split at hown
      · next table htable =>
        obtain ⟨⟨value, _⟩, hvalue, rfl⟩ := List.mem_map.mp hown
        exact .subtype htable hvalue
      · next hnone =>
        obtain rfl := List.mem_singleton.mp hown
        exact .itself hnone
    · exact .extension hextension htype
  · rintro (hnone | ⟨htable, hvalue⟩ | ⟨hextension, htype⟩)
    · rw [hnone]
      exact .inl List.mem_cons_self
    · rw [htable]
      exact .inl (List.mem_map_of_mem hvalue)
    · exact .inr ⟨_, hextension, htype⟩

/-- Role players are the properties whose values are such. -/
theorem mem_roleplayers_iff {property : String} :
    property ∈ o.roleplayers ↔
      ∃ info, (property, info) ∈ o.attributes ∧ info.valueType = .roleplayer := by
  simp [roleplayers]

end ObjectMapping

namespace Mapping

variable {m : Mapping}

/-- Attributes are reported unless nothing is wrong with any of them. -/
theorem attributeDefects_eq_nil_iff {document : DocumentName} {attributes : Table AttributeInfo} :
    m.attributeDefects document attributes = [] ↔
      ∀ property info, (property, info) ∈ attributes → m.attributeDefect? info = none := by
  simp [attributeDefects, List.filterMap_eq_nil_iff]

/-- An item of the dictionary is reported unless its tag is that of a scalar. -/
theorem itemDefects_eq_nil_iff {tag : String} :
    itemDefects tag = [] ↔ ∃ scalar, ValueType.ofTag? tag = some (.scalar scalar) := by
  rw [itemDefects]
  cases htype : ValueType.ofTag? tag with
  | none => simp
  | some type => simp [ValueType.isPrimitive_iff]

end Mapping

namespace Documents

variable {d : Documents}

/-- Nothing is wrong with an attribute entry exactly if what it refers to is there. -/
theorem attributeDefect?_eq_none_iff {info : AttributeInfo} :
    d.mapping.attributeDefect? info = none ↔ d.Resolves info := by
  rw [Mapping.attributeDefect?]
  constructor
  · intro h
    constructor
    case composite =>
      intro schema htype
      rw [htype] at h
      simpa [mapping, Table.contains_iff] using h
    case keyValue =>
      intro schema htype
      rw [htype] at h
      simpa [mapping, Table.contains_iff] using h
    case relation =>
      intro typeName htype
      rw [htype] at h
      simpa [Text.contains_iff] using h
  · rintro ⟨hcomposite, hkeyValue, hrelation⟩
    split
    · next schema htype => exact if_pos (Table.contains_iff.mpr (hcomposite schema htype))
    · next schema htype => exact if_pos (Table.contains_iff.mpr (hkeyValue schema htype))
    · next typeName htype => exact if_pos (Text.contains_iff.mpr (hrelation typeName htype))
    · rfl

/-- The documents list no attribute entry whose references lead nowhere. -/
theorem attributes_resolve_iff :
    (∀ info, d.HasAttribute info → d.Resolves info) ↔
      d.mapping.attributeDefects .commonAttributes d.commonAttributes = [] ∧
        (∀ entry ∈ d.objects, d.mapping.objectDefects entry.2 = []) ∧
        ∀ entry ∈ d.composites,
          d.mapping.attributeDefects .composites entry.2.attributes = [] := by
  simp only [Mapping.objectDefects, List.append_eq_nil_iff, List.flatMap_eq_nil_iff,
    Mapping.attributeDefects_eq_nil_iff, attributeDefect?_eq_none_iff]
  constructor
  · intro h
    exact ⟨fun _ _ hinfo => h _ (.common hinfo),
      fun _ ho => ⟨fun _ _ hinfo => h _ (.object ho hinfo),
        fun _ he _ _ hinfo => h _ (.extension ho he hinfo)⟩,
      fun _ hc _ _ hinfo => h _ (.composite hc hinfo)⟩
  · rintro ⟨hcommon, hobjects, hcomposites⟩ info hinfo
    cases hinfo with
    | common hinfo => exact hcommon _ _ hinfo
    | object ho hinfo => exact (hobjects _ ho).1 _ _ hinfo
    | extension ho he hinfo => exact (hobjects _ ho).2 _ he _ _ hinfo
    | composite hc hinfo => exact hcomposites _ hc _ _ hinfo

/-- No type is mapped twice exactly if no two of the four documents map the same type. -/
theorem nodup_objects_iff (h : d.Distinct) :
    (Table.names d.objects).Nodup ↔
      [d.domainObjects, d.relationshipObjects, d.cyberObservables, d.metaObjects].Pairwise
        fun t t' => (Table.names t).Disjoint (Table.names t') := by
  have hnames : Table.names d.objects = ([d.domainObjects, d.relationshipObjects,
      d.cyberObservables, d.metaObjects].map Table.names).flatten := by
    simp [objects, Table.names]
  rw [hnames, List.nodup_flatten, List.pairwise_map]
  refine and_iff_right ?_
  simp [h.domainObjects, h.relationshipObjects, h.cyberObservables, h.metaObjects]

/-- A role is found exactly if the relation type lists one for the property. -/
theorem isSome_role?_iff (h : d.Distinct) {relationType property : String} :
    (d.mapping.role? relationType property).isSome = true ↔
      ∃ roles role, (relationType, roles) ∈ d.relationRoles ∧ (property, role) ∈ roles := by
  rw [Option.isSome_iff_exists]
  constructor
  · rintro ⟨role, hrole⟩
    obtain ⟨roles, hroles, hrole⟩ := Option.bind_eq_some_iff.mp hrole
    exact ⟨roles, role, Table.mem_of_get? hroles, Table.mem_of_get? hrole⟩
  · rintro ⟨roles, role, hroles, hrole⟩
    exact ⟨role, Option.bind_eq_some_iff.mpr ⟨roles,
      (Table.get?_eq_some_iff h.relationRoles).mpr hroles,
      (Table.get?_eq_some_iff (h.roles _ _ hroles)).mpr hrole⟩⟩

/-- Types that have a class are mapped, to what has all roles that a relationship needs. -/
theorem classDefects_eq_nil_iff (h : d.Distinct) (hobjects : (Table.names d.objects).Nodup) :
    (∀ entry ∈ d.classes.entries, d.mapping.classDefects entry.1 entry.2 = []) ↔
      (∀ stixType ∈ d.classes.types, stixType ∈ Table.names d.objects) ∧
      ∀ stixType o relationType property info, stixType ∈ d.classes.relationship →
        (stixType, o) ∈ d.objects → o.Becomes relationType → (property, info) ∈ o.attributes →
        info.valueType = .roleplayer →
        ∃ roles role, (relationType, roles) ∈ d.relationRoles ∧ (property, role) ∈ roles := by
  simp only [Mapping.classDefects_eq_nil_iff, Mapping.roleDefects_eq_nil_iff,
    isSome_role?_iff h, ← ObjectMapping.mem_relationTypes_iff]
  constructor
  · intro hclasses
    constructor
    · intro stixType htype
      rw [← Classes.names_entries] at htype
      obtain ⟨objectClass, hentry⟩ := Table.mem_names_iff.mp htype
      obtain ⟨o, hobject, -⟩ := hclasses _ hentry
      exact Table.mem_names_iff.mpr ⟨o, Table.mem_of_get? hobject⟩
    · intro stixType o relationType property info hclass ho hrelation hinfo hplayer
      obtain ⟨o', ho', hroles⟩ := hclasses _ (Classes.mem_entries_relationship.mpr hclass)
      -- names differ, so the entry that is listed is the one that is found
      obtain rfl := Option.some.inj (((Table.get?_eq_some_iff hobjects).mpr ho).symm.trans ho')
      exact hroles rfl _ hrelation _ (ObjectMapping.mem_roleplayers_iff.mpr ⟨info, hinfo, hplayer⟩)
  · rintro ⟨hmapped, hroles⟩ ⟨stixType, objectClass⟩ hentry
    have htype : stixType ∈ d.classes.types := by
      rw [← Classes.names_entries]
      exact Table.mem_names_iff.mpr ⟨objectClass, hentry⟩
    obtain ⟨o, ho⟩ := Table.mem_names_iff.mp (hmapped _ htype)
    refine ⟨o, (Table.get?_eq_some_iff hobjects).mpr ho, ?_⟩
    rintro rfl relationType hrelation property hproperty
    obtain ⟨info, hinfo, hplayer⟩ := ObjectMapping.mem_roleplayers_iff.mp hproperty
    exact hroles _ _ _ _ _ (Classes.mem_entries_relationship.mp hentry) ho hrelation hinfo hplayer

/-- Object types that are mapped have a class. -/
theorem unclassed_eq_nil_iff :
    ((Table.names d.objects).filter fun stixType =>
      !Table.contains d.classes.entries stixType) = [] ↔
      ∀ stixType ∈ Table.names d.objects, stixType ∈ d.classes.types := by
  simp [List.filter_eq_nil_iff, Table.contains_iff, Classes.names_entries]

/-- The values of key-value schemas are literals. -/
theorem unfitKeyValues_eq_nil_iff :
    (d.keyValues.filter fun entry => !entry.2.valueType.isPrimitive) = [] ↔
      ∀ schema k, (schema, k) ∈ d.keyValues → ∃ scalar, k.valueType = .scalar scalar := by
  simp [List.filter_eq_nil_iff, ValueType.isPrimitive_iff]

/-- The values of dictionaries are literals. -/
theorem unfitItems_eq_nil_iff :
    (∀ tag ∈ Table.names d.dictionary.items, Mapping.itemDefects tag = []) ↔
      ∀ tag item, (tag, item) ∈ d.dictionary.items →
        ∃ scalar, ValueType.ofTag? tag = some (.scalar scalar) := by
  simp [Table.mem_names_iff, Mapping.itemDefects_eq_nil_iff]

/-- Nothing is to be said against a mapping exactly if all its entries fit together. -/
theorem defects_eq_nil_iff :
    d.mapping.defects = [] ↔
      (∀ entry ∈ d.classes.entries, d.mapping.classDefects entry.1 entry.2 = []) ∧
      (∀ stixType ∈ Table.names d.objects, stixType ∈ d.classes.types) ∧
      (∀ info, d.HasAttribute info → d.Resolves info) ∧
      (∀ schema k, (schema, k) ∈ d.keyValues → ∃ scalar, k.valueType = .scalar scalar) ∧
      ∀ tag item, (tag, item) ∈ d.dictionary.items →
        ∃ scalar, ValueType.ofTag? tag = some (.scalar scalar) := by
  rw [← unclassed_eq_nil_iff, ← unfitKeyValues_eq_nil_iff, ← unfitItems_eq_nil_iff,
    attributes_resolve_iff]
  simp only [Mapping.defects, List.append_eq_nil_iff, List.flatMap_eq_nil_iff,
    List.map_eq_nil_iff, and_assoc]
  rfl

/-- Documents agree exactly if their entries do not clash and nothing is to be said against what
they state together. -/
theorem agree_iff (h : d.Distinct) :
    d.Agree ↔ (Table.names d.objects).Nodup ∧ d.classes.types.Nodup ∧ d.mapping.defects = [] := by
  rw [defects_eq_nil_iff]
  constructor
  · rintro ⟨hmapped, hclassed, hsame, hroles, hattributes, hkeyValues, hitems⟩
    have hobjects := (nodup_objects_iff h).mpr hmapped
    refine ⟨hobjects, hclassed, ?_, fun t => (hsame t).mpr, hattributes, hkeyValues, hitems⟩
    exact (classDefects_eq_nil_iff h hobjects).mpr ⟨fun t => (hsame t).mp, hroles⟩
  · rintro ⟨hobjects, hclassed, hclasses, hback, hattributes, hkeyValues, hitems⟩
    obtain ⟨hthere, hroles⟩ := (classDefects_eq_nil_iff h hobjects).mp hclasses
    exact ⟨(nodup_objects_iff h).mp hobjects, hclassed, fun t => ⟨hthere t, hback t⟩, hroles,
      hattributes, hkeyValues, hitems⟩

end Documents

/-! ## The mapping of documents that agree -/

/-- Texts make a mapping exactly if they are ten documents that agree, and it holds what these say.
-/
theorem Mapping.ofTexts_eq_ok_iff {texts : Table String} {m : Mapping} :
    ofTexts texts = .ok m ↔
      ∃ d : Documents, Sources.ofTexts texts = d.sources ∧ d.Agree ∧ m = d.mapping := by
  rw [ofTexts, assemble_eq_ok]
  refine exists_congr fun d => and_congr_right fun hd => ?_
  rw [Documents.agree_iff (Documents.distinct_of_texts hd), d.classes.names_entries, and_comm]

end ThreatGraph
