import ThreatGraph.Mapping.Loading
import ThreatGraph.Mapping.Lookup
import ThreatGraph.Proofs.Naming
import ThreatGraph.Proofs.Tables

/-!
# What an assembled mapping holds

A mapping that was put together from documents holds exactly their entries, with the object types
and the classes of the four kinds one after the other. None of these stands in it twice, and nothing
in it is defective (`Mapping.assemble_eq_ok`). Of documents that are put together and have defects,
the first one is reported (`Mapping.assemble_sources`). Of what a mapping without defects can be
asked, `Mapping.Consistent` states what it always has an answer to.

Merging and classifying are inductions whose invariant is that the names so far differ
(`mergeObjects_eq_ok`, `classify_eq_ok`). They hold from any beginning, so the four steps of either
are chained.
-/

namespace ThreatGraph

/-- The types of the four kinds with their class. -/
def Classes.entries (c : Classes) : Table ObjectClass :=
  c.domain.map (·, .domain) ++ c.relationship.map (·, .relationship) ++
    c.cyberObservable.map (·, .cyberObservable) ++ c.metaObject.map (·, .metaObject)

/-- The mappings of the object types of the four kinds. -/
def Documents.objects (d : Documents) : Table ObjectMapping :=
  d.domainObjects ++ d.relationshipObjects ++ d.cyberObservables ++ d.metaObjects

/-- The entries of documents in one place. -/
def Documents.mapping (d : Documents) : Mapping where
  classes := d.classes.entries
  objects := d.objects
  common := d.commonAttributes
  composites := d.composites
  roles := d.relationRoles
  keyValues := d.keyValues
  dictionary := d.dictionary

namespace Mapping

/-- Tables can be merged unless they map the same type, and are then appended. -/
theorem mergeObjects_eq_ok {document : DocumentName} {types merged all : Table ObjectMapping}
    (hmerged : (Table.names merged).Nodup) :
    mergeObjects document merged types = .ok all ↔
      all = merged ++ types ∧ (Table.names all).Nodup := by
  induction types generalizing merged with
  | nil =>
    rw [mergeObjects, List.append_nil, Except.ok.injEq, eq_comm]
    exact (and_iff_left_of_imp fun h => h ▸ hmerged).symm
  | cons entry rest ih =>
    obtain ⟨stixType, o⟩ := entry
    rw [mergeObjects]
    split
    · next hold =>
      constructor
      · intro h
        cases h
      · rintro ⟨rfl, hall⟩
        exact absurd (Table.contains_iff.mp hold) (Table.not_mem_names_of_nodup hall)
    · next hnew =>
      rw [Table.contains_iff] at hnew
      rw [ih (Table.nodup_concat hmerged hnew o), List.append_assoc, List.singleton_append]

/-- Types can be given a class unless they have one, and are then appended with it. -/
theorem classify_eq_ok {objectClass : ObjectClass} {types : List String}
    {classed all : Table ObjectClass} (hclassed : (Table.names classed).Nodup) :
    classify objectClass classed types = .ok all ↔
      all = classed ++ types.map (·, objectClass) ∧ (Table.names all).Nodup := by
  induction types generalizing classed with
  | nil =>
    rw [classify, List.map_nil, List.append_nil, Except.ok.injEq, eq_comm]
    exact (and_iff_left_of_imp fun h => h ▸ hclassed).symm
  | cons stixType rest ih =>
    rw [classify, List.map_cons]
    split
    · -- a type that is there already would be named twice
      next hold =>
      constructor
      · intro h
        cases h
      · rintro ⟨rfl, hall⟩
        exact absurd (Table.contains_iff.mp hold) (Table.not_mem_names_of_nodup hall)
    · next hnew =>
      rw [Table.contains_iff] at hnew
      rw [ih (Table.nodup_concat hclassed hnew objectClass), List.append_assoc,
        List.singleton_append]

/-- Documents that map no object type twice and give none two classes state a mapping, unless it is
defective. Its first defect is the one that is reported. -/
theorem assemble_sources {d : Documents} (hobjects : (Table.names d.objects).Nodup)
    (hclassed : (Table.names d.classes.entries).Nodup) :
    assemble d.sources = d.mapping.defects.head?.elim (.ok d.mapping) .error := by
  -- every table on the way is the beginning of the last one
  have hinit {α : Type} {t u : Table α} (h : (Table.names (t ++ u)).Nodup) :
      (Table.names t).Nodup := by
    rw [Table.names, List.map_append] at h
    exact h.of_append_left
  have hmerge {document : DocumentName} {types merged : Table ObjectMapping}
      (h : (Table.names (merged ++ types)).Nodup) :
      mergeObjects document merged types = .ok (merged ++ types) :=
    (mergeObjects_eq_ok (hinit h)).mpr ⟨rfl, h⟩
  have hclassify {objectClass : ObjectClass} {types : List String} {classed : Table ObjectClass}
      (h : (Table.names (classed ++ types.map (·, objectClass))).Nodup) :
      classify objectClass classed types = .ok (classed ++ types.map (·, objectClass)) :=
    (classify_eq_ok (hinit h)).mpr ⟨rfl, h⟩
  have hobjects'' := hinit hobjects
  have hobjects' := hinit hobjects''
  have hclassed'' := hinit hclassed
  have hclassed' := hinit hclassed''
  unfold assemble Documents.sources
  simp only [except_ok_bind]
  rw [hmerge (show (Table.names ([] ++ d.domainObjects)).Nodup from hinit hobjects'),
    except_ok_bind, List.nil_append, hmerge hobjects', except_ok_bind, hmerge hobjects'',
    except_ok_bind, hmerge hobjects, except_ok_bind,
    hclassify (show (Table.names ([] ++ d.classes.domain.map (·, ObjectClass.domain))).Nodup from
      hinit hclassed'),
    except_ok_bind, List.nil_append, hclassify hclassed', except_ok_bind, hclassify hclassed'',
    except_ok_bind, hclassify hclassed, except_ok_bind]
  split
  · next hdefects =>
    rw [show d.mapping.defects = [] from hdefects]
    rfl
  · next defect rest hdefects =>
    rw [show d.mapping.defects = defect :: rest from hdefects]
    rfl

/-- A mapping is assembled exactly from documents that are all at hand, map no object type twice
and give none two classes. It holds their entries, and is not defective. -/
theorem assemble_eq_ok {s : Sources} {m : Mapping} :
    assemble s = .ok m ↔ ∃ d : Documents, s = d.sources ∧ m = d.mapping ∧
      (Table.names d.objects).Nodup ∧ (Table.names d.classes.entries).Nodup ∧
      d.mapping.defects = [] := by
  constructor
  · intro h
    have hempty {α : Type} : (Table.names ([] : Table α)).Nodup := List.nodup_nil
    simp only [assemble, except_bind_eq_ok] at h
    obtain ⟨classes, hclasses, _, hdomain, domain, hmerge, relationship, hrelationship, _, hmerge',
      observables, hobservables, _, hmerge'', metaObjects, hmetaObjects, _, hobjects, _, hclassify,
      _, hclassify', _, hclassify'', _, hclassed, common, hcommon, composites, hcomposites, roles,
      hroles, keyValues, hkeyValues, dictionary, hdictionary, h⟩ := h
    -- each step of merging asks that the names so far differ, which the step before it says
    obtain ⟨rfl, hnodup⟩ := (mergeObjects_eq_ok hempty).mp hmerge
    obtain ⟨rfl, hnodup'⟩ := (mergeObjects_eq_ok hnodup).mp hmerge'
    obtain ⟨rfl, hnodup''⟩ := (mergeObjects_eq_ok hnodup').mp hmerge''
    obtain ⟨rfl, hobjects⟩ := (mergeObjects_eq_ok hnodup'').mp hobjects
    obtain ⟨rfl, hnodup⟩ := (classify_eq_ok hempty).mp hclassify
    obtain ⟨rfl, hnodup'⟩ := (classify_eq_ok hnodup).mp hclassify'
    obtain ⟨rfl, hnodup''⟩ := (classify_eq_ok hnodup').mp hclassify''
    obtain ⟨rfl, hclassed⟩ := (classify_eq_ok hnodup'').mp hclassed
    split at h
    · next hdefects =>
      obtain rfl := Except.ok.inj h
      refine ⟨⟨classes, domain, relationship, observables, metaObjects, common, composites, roles,
        keyValues, dictionary⟩, ?_, rfl, hobjects, hclassed, hdefects⟩
      obtain ⟨⟩ := s
      simp only at *
      subst hclasses hdomain hrelationship hobservables hmetaObjects hcommon hcomposites hroles
        hkeyValues hdictionary
      rfl
    · cases h
  · rintro ⟨d, rfl, rfl, hobjects, hclassed, hdefects⟩
    rw [assemble_sources hobjects hclassed, hdefects]
    rfl

/-! ## What the absence of defects says -/

section

variable {m : Mapping} {stixType : String}

/-- There is nothing to be said against roles exactly if each role player has one wherever it may be
needed. -/
theorem roleDefects_eq_nil_iff {o : ObjectMapping} :
    m.roleDefects stixType o = [] ↔
      ∀ relationType ∈ o.relationTypes, ∀ property ∈ o.roleplayers,
        (m.role? relationType property).isSome = true := by
  simp [roleDefects, List.flatMap_eq_nil_iff, List.filter_eq_nil_iff, Option.isSome_iff_ne_none]

/-- There is nothing to be said against a type with a class if it is mapped and, for a relationship,
has its roles. -/
theorem classDefects_eq_nil_iff {objectClass : ObjectClass} :
    m.classDefects stixType objectClass = [] ↔
      ∃ o, m.objects.get? stixType = some o ∧
        (objectClass = .relationship → m.roleDefects stixType o = []) := by
  rw [classDefects]
  cases hobject : m.objects.get? stixType with
  | none => simp
  | some o =>
    simp only [Option.some.injEq, exists_eq_left']
    exact ite_eq_right_iff

/-- What conversions rely on when they ask a mapping about a type that has a class. -/
structure Consistent (m : Mapping) : Prop where
  /-- types with a class are mapped -/
  mapped : ∀ {stixType : String} {objectClass : ObjectClass},
    m.classOf? stixType = some objectClass → ∃ o, m.objects.get? stixType = some o
  /-- every role player has a role in every relation that an object can become -/
  roles : ∀ {stixType : String} {o : ObjectMapping} {relationType property : String},
    m.classOf? stixType = some .relationship → m.objects.get? stixType = some o →
    relationType ∈ o.relationTypes → property ∈ o.roleplayers →
    ∃ role, m.role? relationType property = some role

theorem consistent_of_defects (h : m.defects = []) : m.Consistent := by
  have hclasses : ∀ {stixType objectClass}, m.classOf? stixType = some objectClass →
      m.classDefects stixType objectClass = [] := by
    intro stixType objectClass hclass
    simp only [defects, List.append_eq_nil_iff, List.flatMap_eq_nil_iff] at h
    exact h.1.1.1.1.1.1 (stixType, objectClass) (Table.mem_of_get? hclass)
  constructor
  case mapped =>
    intro stixType objectClass hclass
    obtain ⟨o, hobject, -⟩ := classDefects_eq_nil_iff.mp (hclasses hclass)
    exact ⟨o, hobject⟩
  case roles =>
    intro stixType o relationType property hclass hobject hrelation hproperty
    obtain ⟨other, hother, hroles⟩ := classDefects_eq_nil_iff.mp (hclasses hclass)
    obtain rfl := Option.some.inj (hobject.symm.trans hother)
    have hrole := roleDefects_eq_nil_iff.mp (hroles rfl) relationType hrelation property hproperty
    exact Option.isSome_iff_exists.mp hrole

/-- A mapping that was put together is consistent, as it has no defects. -/
theorem consistent_of_assemble {sources : Sources} (h : assemble sources = .ok m) :
    m.Consistent := by
  obtain ⟨d, -, rfl, -, -, hdefects⟩ := assemble_eq_ok.mp h
  exact consistent_of_defects hdefects

end

/-! ## Target types -/

/-- The type that is selected is one that the object type can be stored as. -/
theorem mem_relationTypes_of_selectedType {o : ObjectMapping} {stixId stixType typeName : String}
    {properties : Members} (h : selectedType o stixId stixType properties = .ok typeName) :
    typeName ∈ o.relationTypes := by
  refine List.mem_append_left _ ?_
  unfold selectedType at h
  split at h
  · next hnone =>
    obtain rfl := Except.ok.inj h
    rw [hnone]
    exact List.mem_singleton_self _
  · next subtypes hsubtypes =>
    rw [hsubtypes]
    split at h
    · cases h
    · simp only at h
      split at h
      · cases h
      · next found hfound =>
        obtain rfl := Except.ok.inj h
        -- the value's own entry, or else the one for all values
        rw [SubtypeTable.resolve?, Option.orElse_eq_orElse, Option.orElse_eq_or] at hfound
        rcases Option.or_eq_some_iff.mp hfound with hentry | ⟨-, hentry⟩
        · exact List.mem_map_of_mem (Table.mem_of_get? hentry)
        · exact List.mem_map_of_mem (Table.mem_of_get? hentry)

/-- The target type of an object is one of those that the mapping of its type lists. -/
theorem mem_relationTypes_of_targetType? {m : Mapping} {o : ObjectMapping}
    {stixId stixType typeName : String} {properties : Members} {extensions : Option Members}
    (ho : m.objects.get? stixType = some o)
    (h : m.targetType? stixId stixType properties extensions = .ok (some typeName)) :
    typeName ∈ o.relationTypes := by
  unfold targetType? at h
  simp only [ho, except_bind_eq_ok] at h
  obtain ⟨selected, hselected, relevant, -, h⟩ := h
  obtain rfl := Option.some.inj (Except.ok.inj h)
  cases hoverride : (relevant.bind fun name => o.extensions.get? name).bind (·.typeName) with
  | none => exact mem_relationTypes_of_selectedType hselected
  | some override =>
    obtain ⟨extension, hextension, htype⟩ := Option.bind_eq_some_iff.mp hoverride
    obtain ⟨name, -, hname⟩ := Option.bind_eq_some_iff.mp hextension
    refine List.mem_append_right _ (List.mem_filterMap.mpr ?_)
    exact ⟨(name, extension), Table.mem_of_get? hname, htype⟩

end Mapping

end ThreatGraph
