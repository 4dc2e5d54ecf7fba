import ThreatGraph.Proofs.Agreement
import ThreatGraph.Proofs.Resolution

/-!
# Which document is blamed for an attribute entry

Documents can agree in everything but what their attribute entries refer to
(`Documents.AgreeElsewhere`). What is wrong with these entries is told after the four object tables
have been merged, one by one in the order of the documents (`Documents.attributeDefects_eq`). Where
a single entry is at fault, its defect is what is reported (`Mapping.ofTexts_blames`).

The report names the document that holds the entry if that is the table of common attributes, of
domain objects or of composites. For entries of any other class of objects it blames the document
of the domain objects (`entry_blamed_elsewhere`).
-/

namespace ThreatGraph

/-- The document for which an attribute entry is reported, by the document that holds it. -/
def DocumentName.blamed : DocumentName → DocumentName
  | .relationshipObjects | .cyberObservables | .metaObjects => .domainObjects
  | document => document

/-- The attribute entries of an object type and of its extensions. -/
def ObjectMapping.attributeEntries (o : ObjectMapping) : Table AttributeInfo :=
  o.attributes ++ o.extensions.flatMap fun extension => extension.2.attributes

namespace Documents

variable (d : Documents)

/-- The documents that map object types. -/
def objectTables : List (DocumentName × Table ObjectMapping) :=
  [(.domainObjects, d.domainObjects), (.relationshipObjects, d.relationshipObjects),
    (.cyberObservables, d.cyberObservables), (.metaObjects, d.metaObjects)]

/-- The attribute entries of the documents, each with the document and the property under which it
is written. -/
def attributeEntries : List (DocumentName × String × AttributeInfo) :=
  d.commonAttributes.map (DocumentName.commonAttributes, ·) ++
    (d.objectTables.flatMap fun (document, table) =>
      table.flatMap fun entry => entry.2.attributeEntries.map (document, ·)) ++
    d.composites.flatMap fun entry => entry.2.attributes.map (DocumentName.composites, ·)

/-- What is wrong with an attribute entry: there is no schema of the name that it refers to, or the
name under which it keeps references holds no pair of colons. -/
inductive Faulty (info : AttributeInfo) : AttributeDefect → Prop where
  | composite {schema : String} : info.valueType.elementType = .composite schema →
    schema ∉ Table.names d.composites → Faulty info (.unknownComposite schema)
  | keyValue {schema : String} : info.valueType.elementType = .keyValue schema →
    schema ∉ Table.names d.keyValues → Faulty info (.unknownKeyValue schema)
  | relation {typeName : String} : info.valueType.elementType = .relation typeName →
    (∀ ownerRole targetRole, info.name ≠ ownerRole ++ "::" ++ targetRole) →
    Faulty info (.notARolePair info.name)

/-- The documents agree, whatever their attribute entries refer to. -/
structure AgreeElsewhere : Prop where
  /-- no two documents map the same object type -/
  mappedOnce : [d.domainObjects, d.relationshipObjects, d.cyberObservables,
    d.metaObjects].Pairwise fun t t' => (Table.names t).Disjoint (Table.names t')
  /-- no object type is listed twice among the classes -/
  classedOnce : d.classes.types.Nodup
  /-- what has a class is mapped, and what is mapped has a class -/
  sameTypes : ∀ stixType, stixType ∈ d.classes.types ↔ stixType ∈ Table.names d.objects
  /-- relationships have a role for each of their role players, whatever they are stored as -/
  roles : ∀ stixType o relationType property info, stixType ∈ d.classes.relationship →
    (stixType, o) ∈ d.objects → o.Becomes relationType → (property, info) ∈ o.attributes →
    info.valueType = .roleplayer →
    ∃ roles role, (relationType, roles) ∈ d.relationRoles ∧ (property, role) ∈ roles
  /-- the values of key-value schemas are single literals -/
  keyValues : ∀ schema k, (schema, k) ∈ d.keyValues → ∃ scalar, k.valueType = .scalar scalar
  /-- so are the values of dictionaries, by the tag of their type -/
  items : ∀ tag item, (tag, item) ∈ d.dictionary.items →
    ∃ scalar, ValueType.ofTag? tag = some (.scalar scalar)

/-- The documents agree but for one attribute entry, and that is what is wrong with it. -/
structure OneDefect (document : DocumentName) (property : String) (defect : AttributeDefect) :
    Prop where
  /-- there is nothing else to be said against the documents -/
  elsewhere : d.AgreeElsewhere
  /-- one entry is at fault, and what all others refer to is there -/
  entry : ∃ before info after, d.attributeEntries = before ++ (document, property, info) :: after ∧
    d.Faulty info defect ∧ ∀ other ∈ before ++ after, d.Resolves other.2.2

variable {d} {info : AttributeInfo} {defect : AttributeDefect}

/-- The object types of all documents are those of the four tables. -/
theorem objects_eq : d.objects = d.objectTables.flatMap Prod.snd := by
  simp [objects, objectTables]

/-- The defect that is found is what is wrong with the entry. -/
theorem attributeDefect?_eq_some_iff :
    d.mapping.attributeDefect? info = some defect ↔ d.Faulty info defect := by
  constructor
  · intro h
    rw [Mapping.attributeDefect?] at h
    split at h
    · next schema htype =>
      split at h
      · cases h
      · next hnone =>
        obtain rfl := Option.some.inj h
        exact .composite htype fun hmem => hnone (Table.contains_iff.mpr hmem)
    · next schema htype =>
      split at h
      · cases h
      · next hnone =>
        obtain rfl := Option.some.inj h
        exact .keyValue htype fun hmem => hnone (Table.contains_iff.mpr hmem)
    · next typeName htype =>
      split at h
      · cases h
      · next hnone =>
        obtain rfl := Option.some.inj h
        exact .relation htype fun ownerRole targetRole hname =>
          hnone (Text.contains_iff.mpr ⟨ownerRole, targetRole, hname⟩)
    · cases h
  · intro h
    rw [Mapping.attributeDefect?]
    -- each defect is that of one value type, whose branch is the only one left
    cases h with
    | composite htype hnone =>
      rw [htype]
      exact if_neg fun hmem => hnone (Table.contains_iff.mp hmem)
    | keyValue htype hnone =>
      rw [htype]
      exact if_neg fun hmem => hnone (Table.contains_iff.mp hmem)
    | relation htype hnone =>
      rw [htype]
      refine if_neg fun hmem => ?_
      obtain ⟨ownerRole, targetRole, hname⟩ := Text.contains_iff.mp hmem
      exact hnone ownerRole targetRole hname

end Documents

/-! ## The reports of attribute entries -/

namespace Mapping

variable (m : Mapping)

/-- What is reported of an attribute entry that a document holds. -/
def reportOf : DocumentName × String × AttributeInfo → Option MappingDefect :=
  fun (document, property, info) => (m.attributeDefect? info).map fun defect =>
    .inconsistent document.blamed (.attribute property defect)

/-- The entries of one document are reported for one document. -/
theorem filterMap_reportOf (document : DocumentName) (attributes : Table AttributeInfo) :
    (attributes.map (document, ·)).filterMap m.reportOf =
      m.attributeDefects document.blamed attributes := by
  rw [List.filterMap_map]
  rfl

/-- An object type is reported as its own entries and those of its extensions are. -/
theorem objectDefects_eq (o : ObjectMapping) :
    m.objectDefects o = m.attributeDefects .domainObjects o.attributeEntries := by
  rw [objectDefects, ObjectMapping.attributeEntries, attributeDefects, attributeDefects,
    List.filterMap_append, List.filterMap_flatMap]
  rfl

end Mapping

namespace Documents

variable {d : Documents}

/-- Whatever document maps an object type, its attribute entries are reported for the domain
objects. -/
theorem blamed_of_mem_objectTables {document : DocumentName} {table : Table ObjectMapping}
    (h : (document, table) ∈ d.objectTables) : document.blamed = .domainObjects := by
  simp only [objectTables, List.mem_cons, Prod.mk.injEq, List.not_mem_nil, or_false] at h
  rcases h with ⟨rfl, -⟩ | ⟨rfl, -⟩ | ⟨rfl, -⟩ | ⟨rfl, -⟩ <;> rfl

/-- Attribute entries are reported one by one. -/
theorem attributeDefects_eq :
    d.attributeEntries.filterMap d.mapping.reportOf =
      d.mapping.attributeDefects .commonAttributes d.commonAttributes ++
        (d.objects.flatMap fun entry => d.mapping.objectDefects entry.2) ++
        d.composites.flatMap fun entry =>
          d.mapping.attributeDefects .composites entry.2.attributes := by
  have hobjects (document : DocumentName) (table : Table ObjectMapping)
      (h : (document, table) ∈ d.objectTables) :
      (table.flatMap fun entry => entry.2.attributeEntries.map (document, ·)).filterMap
        d.mapping.reportOf = table.flatMap fun entry => d.mapping.objectDefects entry.2 := by
    simp only [List.filterMap_flatMap, Mapping.filterMap_reportOf, Mapping.objectDefects_eq,
      blamed_of_mem_objectTables h]
  rw [attributeEntries, List.filterMap_append, List.filterMap_append, Mapping.filterMap_reportOf,
    objects_eq, List.flatMap_assoc, List.filterMap_flatMap, List.filterMap_flatMap]
  congr 1
  · congr 1
    exact List.flatMap_congr fun entry hentry => hobjects entry.1 entry.2 hentry
  · simp only [Mapping.filterMap_reportOf]
    rfl

/-- Documents that agree elsewhere have no other defects than those of attribute entries. -/
theorem defects_of_elsewhere (hdistinct : d.Distinct) (h : d.AgreeElsewhere) :
    d.mapping.defects = d.attributeEntries.filterMap d.mapping.reportOf := by
  have hobjects := (nodup_objects_iff hdistinct).mpr h.mappedOnce
  have hclasses : (d.mapping.classes.flatMap fun entry =>
      d.mapping.classDefects entry.1 entry.2) = [] :=
    List.flatMap_eq_nil_iff.mpr <| (classDefects_eq_nil_iff hdistinct hobjects).mpr
      ⟨fun t => (h.sameTypes t).mp, h.roles⟩
  have hunclassed : ((Table.names d.mapping.objects).filter fun stixType =>
      !Table.contains d.mapping.classes stixType) = [] :=
    unclassed_eq_nil_iff.mpr fun t => (h.sameTypes t).mpr
  have hkeyValues : (d.mapping.keyValues.filter fun entry => !entry.2.valueType.isPrimitive) = [] :=
    unfitKeyValues_eq_nil_iff.mpr h.keyValues
  have hitems : (Table.names d.mapping.dictionary.items).flatMap Mapping.itemDefects = [] :=
    List.flatMap_eq_nil_iff.mpr (unfitItems_eq_nil_iff.mpr h.items)
  change (d.mapping.classes.flatMap fun entry => d.mapping.classDefects entry.1 entry.2) ++
    _ ++ _ ++ _ ++ _ ++ _ ++ _ = _
  rw [attributeDefects_eq, hclasses, hunclassed, hkeyValues, hitems, List.map_nil, List.map_nil,
    List.append_nil, List.append_nil]
  rfl

/-- Where one entry is at fault, there is one report. -/
theorem defects_of_one {document : DocumentName} {property : String} {defect : AttributeDefect}
    (hdistinct : d.Distinct) (h : d.OneDefect document property defect) :
    d.mapping.defects = [.inconsistent document.blamed (.attribute property defect)] := by
  obtain ⟨before, info, after, hentries, hfaulty, hothers⟩ := h.entry
  have hnone {others : List (DocumentName × String × AttributeInfo)}
      (hsub : ∀ other ∈ others, other ∈ before ++ after) :
      others.filterMap d.mapping.reportOf = [] := by
    refine List.filterMap_eq_nil_iff.mpr fun other hother => ?_
    rw [Mapping.reportOf, attributeDefect?_eq_none_iff.mpr (hothers other (hsub other hother))]
    rfl
  have hreport : d.mapping.reportOf (document, property, info) =
      some (.inconsistent document.blamed (.attribute property defect)) := by
    rw [Mapping.reportOf, attributeDefect?_eq_some_iff.mpr hfaulty]
    rfl
  rw [defects_of_elsewhere hdistinct h.elsewhere, hentries, List.filterMap_append,
    List.filterMap_cons_some hreport, hnone fun _ => List.mem_append_left _,
    hnone fun _ => List.mem_append_right _]
  rfl

end Documents

/-- **Which document is blamed.** Ten documents that agree but for one attribute entry make no
mapping. What is reported is that entry's defect with its property, for the document that holds the
entry, or for the one of the domain objects if the entry is one of another class of objects. -/
theorem Mapping.ofTexts_blames {texts : Table String} {d : Documents} {document : DocumentName}
    {property : String} {defect : AttributeDefect} (hd : Sources.ofTexts texts = d.sources)
    (h : d.OneDefect document property defect) :
    ofTexts texts = .error (.inconsistent document.blamed (.attribute property defect)) := by
  have hdistinct := Documents.distinct_of_texts hd
  have hclassed : (Table.names d.classes.entries).Nodup := by
    rw [d.classes.names_entries]
    exact h.elsewhere.classedOnce
  rw [ofTexts, hd,
    assemble_sources ((Documents.nodup_objects_iff hdistinct).mpr h.elsewhere.mappedOnce) hclassed,
    Documents.defects_of_one hdistinct h]
  rfl

/-- The texts of a small mapping, of files with hashes for which there is no schema. -/
def hashesTexts : Table String :=
  [("classes.json", "[[], [], [\"file\"]]"), ("sdos.json", "\x7b\x7d"),
    ("sros.json", "\x7b\x7d"),
    ("scos.json", "\x7b\"file\": [\"file\", null, \x7b\x7d, " ++
      "\x7b\"hashes\": [\"hashes\", \"composite:digest\"]\x7d]\x7d"),
    ("smos.json", "\x7b\x7d"), ("common_attributes.json", "\x7b\x7d"),
    ("composites.json", "\x7b\x7d"), ("sros_roles.json", "\x7b\x7d"),
    ("key-value-pairs.json", "\x7b\x7d"),
    ("dictionary.json",
      "[\"key\", \"property\", [\"entry\", \"holder\", \"held\"], \x7b\x7d]")]

/-- The documents that they state. -/
def hashesDocuments : Documents where
  classes := { cyberObservable := ["file"] }
  cyberObservables :=
    [("file",
      { typeName := "file", attributes := [("hashes", ⟨"hashes", .composite "digest", none⟩)] })]
  dictionary := ⟨"key", "property", ⟨"entry", "holder", "held"⟩, []⟩

theorem sources_hashes : Sources.ofTexts hashesTexts = hashesDocuments.sources := by cbv

/-- There is no schema for hashes, and nothing else is wrong. -/
theorem oneDefect_hashes :
    hashesDocuments.OneDefect .cyberObservables "hashes" (.unknownComposite "digest") where
  elsewhere :=
    { mappedOnce := by simp [hashesDocuments, Table.names]
      classedOnce := by decide
      sameTypes := fun _ => Iff.rfl
      roles := fun _ _ _ _ _ h => absurd h List.not_mem_nil
      keyValues := fun _ _ h => absurd h List.not_mem_nil
      items := fun _ _ h => absurd h List.not_mem_nil }
  entry := ⟨[], _, [], rfl, .composite rfl List.not_mem_nil, fun _ h => absurd h List.not_mem_nil⟩

/-- The hashes stand in the document of the cyber observables, and are reported for another. -/
theorem Mapping.ofTexts_blames_hashes :
    Sources.ofTexts hashesTexts = hashesDocuments.sources ∧
      hashesDocuments.OneDefect .cyberObservables "hashes" (.unknownComposite "digest") ∧
      ofTexts hashesTexts =
        .error (.inconsistent .domainObjects (.attribute "hashes" (.unknownComposite "digest"))) :=
  ⟨sources_hashes, oneDefect_hashes, ofTexts_blames sources_hashes oneDefect_hashes⟩

/-- A single defect is not always reported for the document that holds it. -/
theorem entry_blamed_elsewhere :
    ¬ ∀ texts (d : Documents) document property defect, Sources.ofTexts texts = d.sources →
      d.OneDefect document property defect →
      Mapping.ofTexts texts = .error (.inconsistent document (.attribute property defect)) := by
  intro h
  have hclaimed := h _ _ _ _ _ sources_hashes oneDefect_hashes
  have hreported : Mapping.ofTexts hashesTexts =
      .error (.inconsistent .domainObjects (.attribute "hashes" (.unknownComposite "digest"))) := by
    rw [Mapping.ofTexts, sources_hashes]
    rfl
  rw [hreported] at hclaimed
  cases hclaimed

end ThreatGraph
