import ThreatGraph.Proofs.Acceptance
import ThreatGraph.Proofs.Trace

/-!
# The choice among extensions

An object can have any number of extensions, of which the mapping predefines some for its type. One
of these is taken, and two are a conflict; which others there are does not matter
(`Mapping.relevantExtension_chooses`). An object with a conflict is not converted, and that is the
mapping's fault, as the type of the object hangs on the choice. Where extensions as such are not
kept, custom ones leave no trace, whatever they hold and wherever they stand
(`convertObject_extensions`).

There is one exception. The type of an object can be chosen by the text of all its extensions, and
then a custom one can be what chooses it (`custom_extension_chooses`).
-/

namespace ThreatGraph

open Naming

/-! ## Predefined extensions -/

namespace ObjectMapping

/-- The extension is there and predefined. -/
def Predefines (o : ObjectMapping) (extensions : Members) (name : String) : Prop :=
  name ∈ Table.names extensions ∧ name ∈ Table.names o.extensions

/-- The predefined ones among extensions, with what they hold. -/
def predefined (o : ObjectMapping) (extensions : Members) : Members :=
  extensions.filter fun extension => o.extensions.contains extension.1

variable {o : ObjectMapping} {extensions : Members}

/-- The predefined extensions of an object are among its extensions, in their order. -/
theorem names_predefined (o : ObjectMapping) (extensions : Members) :
    Table.names (o.predefined extensions) =
      (Table.names extensions).filter fun name => o.extensions.contains name := by
  rw [predefined, Table.names, Table.names, List.filter_map]
  rfl

theorem mem_names_predefined (o : ObjectMapping) (extensions : Members) (name : String) :
    name ∈ Table.names (o.predefined extensions) ↔ o.Predefines extensions name := by
  rw [names_predefined, List.mem_filter, Table.contains_iff, Predefines]

/-- What a predefined extension holds is found among the predefined ones. -/
theorem get?_predefined {name : String} (h : name ∈ Table.names o.extensions) :
    Members.get? (o.predefined extensions) name = Members.get? extensions name := by
  induction extensions with
  | nil => rfl
  | cons extension rest ih =>
    rw [predefined, List.filter_cons, Members.get?_cons]
    split
    · rw [Members.get?_cons]
      exact congrArg _ ih
    · next hcustom =>
      have hne : extension.1 ≠ name := by
        rintro rfl
        exact hcustom (Table.contains_iff.mpr h)
      rw [if_neg hne]
      exact ih

end ObjectMapping

/-- The answer to which extension is taken, by which of them are predefined: the only one, or none
if there is none. If there are several, the mapping is at fault. -/
structure Mapping.Chooses (stixId stixType : String) (predefined : String → Prop)
    (answer : Except MappingDefect (Option String)) : Prop where
  conflict_iff :
    (∃ first second, answer = .error (.extensionConflict stixId stixType first second)) ↔
      ∃ name other, name ≠ other ∧ predefined name ∧ predefined other
  some_iff : ∀ name, answer = .ok (some name) ↔
    predefined name ∧ ∀ other, predefined other → other = name
  none_iff : answer = .ok none ↔ ∀ name, ¬predefined name

namespace Mapping

variable {m : Mapping} {stixId stixType : String} {o : ObjectMapping} {extensions : Members}

/-- With no predefined extension none is relevant, with one it is that one, and with several they
are in conflict. -/
theorem relevantExtension_chooses (stixId : String) (ho : m.objects.get? stixType = some o)
    (hdistinct : (Table.names extensions).Nodup) :
    Chooses stixId stixType (o.Predefines extensions)
      (m.relevantExtension stixId stixType (some extensions)) := by
  unfold relevantExtension
  simp only [ho]
  have hnodup := hdistinct.filter fun name => o.extensions.contains name
  have hmem := o.mem_names_predefined extensions
  rw [← ObjectMapping.names_predefined] at hnodup ⊢
  generalize Table.names (o.predefined extensions) = found at hmem hnodup ⊢
  -- as many cases as there can be predefined extensions: none, one, and two or more
  match found with
  | [] =>
    have hnone (name : String) : ¬o.Predefines extensions name := fun h =>
      List.not_mem_nil ((hmem name).mpr h)
    constructor
    case conflict_iff => simp [hnone]
    case some_iff => simp [hnone]
    case none_iff => simp [hnone]
  | [name] =>
    have hone (other : String) : o.Predefines extensions other ↔ other = name := by
      rw [← hmem, List.mem_singleton]
    constructor
    case conflict_iff => simp [hone]
    case some_iff => simp [hone, eq_comm]
    case none_iff => simp [hone]
  | first :: second :: rest =>
    have hfirst := (hmem first).mp List.mem_cons_self
    have hsecond := (hmem second).mp (List.mem_cons_of_mem _ List.mem_cons_self)
    have hne : first ≠ second := by
      rintro rfl
      exact (List.nodup_cons.mp hnodup).1 List.mem_cons_self
    constructor
    case conflict_iff =>
      exact ⟨fun _ => ⟨first, second, hne, hfirst, hsecond⟩, fun _ => ⟨first, second, rfl⟩⟩
    case some_iff =>
      refine fun name => ⟨nofun, fun ⟨_, honly⟩ => ?_⟩
      exact absurd ((honly first hfirst).trans (honly second hsecond).symm) hne
    case none_iff => exact ⟨nofun, fun hnone => absurd hfirst (hnone first)⟩

/-- Which extension is taken does not hang on custom ones. -/
theorem relevantExtension_custom (stixId : String) {extensions' : Members}
    (ho : m.objects.get? stixType = some o)
    (h : o.predefined extensions' = o.predefined extensions) :
    m.relevantExtension stixId stixType (some extensions') =
      m.relevantExtension stixId stixType (some extensions) := by
  have hnames := congrArg Table.names h
  rw [ObjectMapping.names_predefined, ObjectMapping.names_predefined] at hnames
  unfold relevantExtension
  simp only [ho, hnames]

/-- Without a choice among the extensions there is no type either. The type may be missed before
that, which is the mapping's fault as well. -/
theorem targetType?_fails (properties : Members) {defect : MappingDefect}
    (ho : m.objects.get? stixType = some o)
    (h : m.relevantExtension stixId stixType (some extensions) = .error defect) :
    ∃ defect, m.targetType? stixId stixType properties (some extensions) = .error defect := by
  unfold targetType?
  simp only [ho]
  rcases selectedType o stixId stixType properties with missed | typeName
  · exact ⟨missed, rfl⟩
  · rw [h]
    exact ⟨defect, rfl⟩

end Mapping

/-! ## Objects with a conflict -/

namespace Subject

variable {s : Subject} {o : ObjectMapping} {extensions extensions' : Members}

/-- A question that is answered has no other effect. -/
theorem ask_ok_bind {α β : Type} (a : α) (next : α → Naming ObjectDefect β) :
    ask (.ok a) >>= next = next a :=
  ofExcept_ok_bind a next

/-- Extensions that are an object are those of the object. -/
theorem extensions_of_get? (h : s.object.get? "extensions" = some (.object extensions)) :
    s.extensions = .ok (some extensions) := by
  rw [Subject.extensions]
  rw [h]

/-- An object is not converted if none of its extensions can be taken, and that is the mapping's
fault. -/
theorem convert_of_conflict {objectClass : ObjectClass} {defect : MappingDefect}
    (hclass : s.mapping.classOf? s.stixType = some objectClass)
    (ho : s.mapping.objects.get? s.stixType = some o)
    (hget : s.object.get? "extensions" = some (.object extensions))
    (h : s.mapping.relevantExtension s.stixId s.stixType (some extensions) = .error defect) :
    ∃ defect, s.convert = .error (.mapping defect) := by
  obtain ⟨missed, htarget⟩ := Mapping.targetType?_fails s.object ho h
  have hextensions : (ofExcept s.extensions).outcome {} = (.ok (some extensions), {}) := by
    rw [outcome_ofExcept, extensions_of_get? hget]
  have hask : ((ask (s.mapping.targetType? s.stixId s.stixType s.object
      (some extensions))).outcome {}).1 = .error (.mapping missed) := by
    rw [htarget]
    rfl
  have hdraft : ((s.draft objectClass).outcome {}).1 = .error (.mapping missed) :=
    bind_fails.mpr (.inr ⟨_, _, hextensions, bind_fails.mpr (.inl hask)⟩)
  rw [s.convert_eq_conversion hclass]
  exact ⟨missed, bind_fails.mpr (.inl hdraft)⟩

/-! ## Objects with other custom extensions -/

/-- The object with other extensions. -/
def extendedBy (s : Subject) (extensions : Members) : Subject :=
  s.on (Table.set s.object "extensions" (.object extensions))

/-- The object has `extensions`, and they are exchanged for others of which the same are
predefined. They are not kept as such, and neither do they choose another type. -/
structure Exchanges (s : Subject) (o : ObjectMapping) (extensions extensions' : Members) :
    Prop where
  mapped : s.mapping.objects.get? s.stixType = some o
  found : s.object.get? "extensions" = some (.object extensions)
  predefined : o.predefined extensions' = o.predefined extensions
  unkept : ∃ info, s.mapping.attribute? s.stixType "extensions" = .ok (some info) ∧
    info.valueType = .empty
  selected : s.subtypeProperty? = some "extensions" →
    Mapping.selectedType o s.stixId s.stixType (s.extendedBy extensions').object =
      Mapping.selectedType o s.stixId s.stixType s.object

/-- Exchanging extensions leaves all other properties. -/
theorem get?_extendedBy (s : Subject) (extensions : Members) {name : String}
    (h : name ≠ "extensions") : (s.extendedBy extensions).object.get? name = s.object.get? name :=
  (Table.get?_set ..).trans (if_neg h.symm)

/-- The extensions are those that were put there. -/
theorem get?_extendedBy_extensions (s : Subject) (extensions : Members) :
    (s.extendedBy extensions).object.get? "extensions" = some (.object extensions) :=
  (Table.get?_set ..).trans (if_pos rfl)

/-- The object is identified as before. -/
theorem identify_extendedBy {m : Mapping} {strict : Bool} (extensions : Members)
    (hs : Subject.identify m strict s.object = .ok s) :
    Subject.identify m strict (s.extendedBy extensions).object = .ok (s.extendedBy extensions) :=
  identify_on (s.get?_extendedBy extensions (by decide)) (s.get?_extendedBy extensions (by decide))
    hs

namespace Exchanges

variable (h : s.Exchanges o extensions extensions')
include h

theorem targetType? : s.mapping.targetType? s.stixId s.stixType (s.extendedBy extensions').object
      (some extensions') =
    s.mapping.targetType? s.stixId s.stixType s.object (some extensions) := by
  have hrelevant := Mapping.relevantExtension_custom s.stixId h.mapped h.predefined
  -- only a type that is chosen by the extensions themselves could be another one
  by_cases hsubtype : s.subtypeProperty? = some "extensions"
  · unfold Mapping.targetType?
    simp only [h.mapped, h.selected hsubtype, hrelevant]
  · refine targetType?_on (fun {name} hname => s.get?_extendedBy extensions' ?_) hrelevant
    rintro rfl
    exact hsubtype hname

/-- What the predefined extension holds is among both. -/
theorem get?_relevant {name : String}
    (hname : s.mapping.relevantExtension s.stixId s.stixType (some extensions) = .ok (some name)) :
    extensions'.get? name = extensions.get? name := by
  obtain ⟨other, hother, hpredefined⟩ := Mapping.relevantExtension_ok hname
  obtain rfl := Option.some.inj (h.mapped.symm.trans hother)
  have hmem := Table.contains_iff.mp hpredefined
  rw [← ObjectMapping.get?_predefined hmem, h.predefined, ObjectMapping.get?_predefined hmem]

/-- The same properties are converted to the same, as the extensions themselves are not kept. -/
theorem properties (self : Reference) (roleplayers : List String) :
    (s.extendedBy extensions').properties self roleplayers (some extensions') =
      s.properties self roleplayers (some extensions) := by
  obtain ⟨info, hinfo, hempty⟩ := h.unkept
  -- the member `extensions` is the only one that differs, and is not kept
  have hown : s.propertiesBy self (s.mapping.attribute? s.stixType) id
      ((s.extendedBy extensions').object.filter fun member => !roleplayers.contains member.1) =
      s.propertiesBy self (s.mapping.attribute? s.stixType) id
        (s.object.filter fun member => !roleplayers.contains member.1) :=
    propertiesBy_set hinfo hempty (.object extensions') (fun name => !roleplayers.contains name)
      (Table.mem_names_of_get? h.found)
  have hrelevant := Mapping.relevantExtension_custom s.stixId h.mapped h.predefined
  simp only [Subject.properties, ownProperties_eq, extensionProperties_eq, extendedBy,
    propertiesBy_on]
  refine (congrArg (· >>= _) hown).trans (congrArg (_ >>= ·) (funext fun own => ?_))
  refine (congrArg (fun answer => ask answer >>= _) hrelevant).trans ?_
  rcases hname : s.mapping.relevantExtension s.stixId s.stixType (some extensions) with
    defect | _ | name
  · rfl
  · rfl
  · rw [ask_ok_bind, ask_ok_bind]
    simp only [Option.bind_some, h.get?_relevant hname]
    rfl

theorem players (typeName : String) (roleplayers : List String) :
    (s.extendedBy extensions').players typeName roleplayers = s.players typeName roleplayers := by
  refine s.players_with s.strict _ typeName fun name _ => ?_
  by_cases hname : name = "extensions"
  · subst hname
    exact .inr ⟨_, _, h.found, s.get?_extendedBy_extensions extensions'⟩
  · exact .inl (s.get?_extendedBy extensions' hname)

theorem entityDraft (typeName : String) :
    (s.extendedBy extensions').entityDraft typeName (some extensions') =
      s.entityDraft typeName (some extensions) := by
  simp only [Subject.entityDraft, h.properties]
  rfl

theorem relationDraft (typeName : String) :
    (s.extendedBy extensions').relationDraft typeName (some extensions') =
      s.relationDraft typeName (some extensions) := by
  have hname : (s.extendedBy extensions').relationName typeName = s.relationName typeName :=
    relationName_on (s.get?_extendedBy extensions' (by decide))
  simp only [Subject.relationDraft, h.properties, h.players, hname]
  rfl

theorem draft (objectClass : ObjectClass) :
    (s.extendedBy extensions').draft objectClass = s.draft objectClass := by
  rw [Subject.draft, Subject.draft, extensions_of_get? h.found,
    extensions_of_get? (s.get?_extendedBy_extensions extensions'), ofExcept_ok_bind,
    ofExcept_ok_bind]
  refine (congrArg (fun answer => ask answer >>= _) h.targetType?).trans ?_
  refine congrArg (_ >>= ·) (funext fun target => ?_)
  cases target with
  | none => rfl
  | some typeName => simp only [h.entityDraft, h.relationDraft]

theorem convert : (s.extendedBy extensions').convert = s.convert := by
  simp only [Subject.convert, h.draft]
  rfl

end Exchanges

end Subject

/-- **Extension choice.** Let an object have a class under a mapping that was assembled from any
documents, and any extensions. The type of the object is mapped, and which extension is taken is
answered by which of them are predefined for it. If two are, then the object is not converted, and
the mapping is at fault. And where extensions as such are not kept, the object is converted in the
same way with any others of which the same are predefined, unless these choose another type. -/
theorem convertObject_extensions {sources : Sources} {m : Mapping}
    (hm : Mapping.assemble sources = .ok m) {strict : Bool} {object : Members} {s : Subject}
    (hs : Subject.identify m strict object = .ok s) {objectClass : ObjectClass}
    (hclass : m.classOf? s.stixType = some objectClass) {extensions : Members}
    (hget : object.get? "extensions" = some (.object extensions))
    (hdistinct : (Table.names extensions).Nodup) :
    ∃ o, m.objects.get? s.stixType = some o ∧
      Mapping.Chooses s.stixId s.stixType (o.Predefines extensions)
        (m.relevantExtension s.stixId s.stixType (some extensions)) ∧
      ((∃ name other, name ≠ other ∧ o.Predefines extensions name ∧
          o.Predefines extensions other) →
        ∃ defect, convertObject m strict object = .error (.mapping defect)) ∧
      ∀ info extensions', m.attribute? s.stixType "extensions" = .ok (some info) →
        info.valueType = .empty → o.predefined extensions' = o.predefined extensions →
        let object' := Table.set object "extensions" (.object extensions')
        (s.subtypeProperty? = some "extensions" →
          Mapping.selectedType o s.stixId s.stixType object' =
            Mapping.selectedType o s.stixId s.stixType object) →
        convertObject m strict object' = convertObject m strict object := by
  obtain ⟨rfl, rfl, rfl⟩ := Subject.of_identify hs
  obtain ⟨o, ho⟩ := (Mapping.consistent_of_assemble hm).mapped hclass
  have hchooses := Mapping.relevantExtension_chooses s.stixId ho hdistinct
  refine ⟨o, ho, hchooses, fun hconflict => ?_, ?_⟩
  · obtain ⟨first, second, herror⟩ := hchooses.conflict_iff.mpr hconflict
    rw [convertObject_eq hs]
    exact Subject.convert_of_conflict hclass ho hget herror
  · intro info extensions' hinfo hempty hpredefined object' hselected
    -- an exchange: the same predefined extensions, in a member that has no other use
    have h : s.Exchanges o extensions extensions' :=
      ⟨ho, hget, hpredefined, ⟨info, hinfo, hempty⟩, hselected⟩
    calc convertObject s.mapping s.strict object'
      _ = (s.extendedBy extensions').convert :=
        convertObject_eq (Subject.identify_extendedBy extensions' hs)
      _ = s.convert := h.convert
      _ = convertObject s.mapping s.strict s.object := (convertObject_eq hs).symm

/-- A file with any extensions. -/
def fileWith (extensions : Members) : Members :=
  [("id", .string "file--1"), ("type", .string "file"), ("extensions", .object extensions)]

/-- A custom extension of a file, which is not even an object, is exchanged for another one behind
the predefined one. -/
theorem convertObject_extensions_file : ∃ m c,
    Mapping.ofDocuments (fileDocuments none []) = .ok m ∧
    m.relevantExtension "file--1" "file" (some [("acme", .integer 1), ("note-ext", .object [])]) =
      .ok (some "note-ext") ∧
    convertObject m true (fileWith [("acme", .integer 1), ("note-ext", .object [])]) = .ok c ∧
    convertObject m true (fileWith [("note-ext", .object []), ("emca", .array [])]) = .ok c ∧
    c.statements.inserted = some [("file", [])] := by
  have hrun : ∃ m s c o, Mapping.ofDocuments (fileDocuments none []) = .ok m ∧
      Subject.identify m true (fileWith [("acme", .integer 1), ("note-ext", .object [])]) =
        .ok s ∧
      convertObject m true (fileWith [("acme", .integer 1), ("note-ext", .object [])]) = .ok c ∧
      c.statements.inserted = some [("file", [])] ∧ s.stixId = "file--1" ∧ s.stixType = "file" ∧
      s.subtypeProperty? = none ∧ m.classOf? "file" = some .cyberObservable ∧
      m.attribute? "file" "extensions" =
        .ok (some { name := "extensions", valueType := .empty }) ∧
      m.objects.get? "file" = some o ∧ o.extensions = [("note-ext", {})] :=
    ⟨_, _, _, _, rfl, rfl, rfl, rfl, rfl, rfl, rfl, rfl, rfl, rfl, rfl⟩
  obtain ⟨m, s, c, o, hm, hs, hc, hinserted, hid, htype, hsubtype, hclass, hinfo, ho,
    hpredefined⟩ := hrun
  obtain ⟨other, hother, hchooses, -, hsame⟩ :=
    convertObject_extensions hm hs (htype ▸ hclass) rfl (by decide)
  rw [htype] at hother hchooses hsame
  rw [hid] at hchooses
  obtain rfl := Option.some.inj (ho.symm.trans hother)
  refine ⟨m, c, hm, (hchooses.some_iff _).mpr ?_, hc, ?_, hinserted⟩
  · simp [ObjectMapping.Predefines, hpredefined, Table.names]
  · refine (hsame _ [("note-ext", .object []), ("emca", .array [])] hinfo rfl ?_ ?_).trans hc
    · rw [ObjectMapping.predefined, ObjectMapping.predefined, hpredefined]
      rfl
    · simp [hsubtype]

/-- A file whose type is chosen by whether it has any extensions. -/
def bareDocuments : Documents :=
  fileDocuments (some ⟨"extensions", [("\x7b\x7d", "plain-file"), ("_", "file")]⟩) []

/-- A custom extension can choose another type if the type is chosen by the text of all extensions,
though extensions as such are not kept. -/
theorem custom_extension_chooses : ∃ m o c c',
    Mapping.ofDocuments bareDocuments = .ok m ∧ m.objects.get? "file" = some o ∧
    m.classOf? "file" = some .cyberObservable ∧
    m.attribute? "file" "extensions" =
      .ok (some { name := "extensions", valueType := .empty }) ∧
    o.predefined [("acme", .object [])] = o.predefined [] ∧
    convertObject m false (fileWith []) = .ok c ∧
    c.statements.inserted = some [("plain-file", [])] ∧
    convertObject m false (fileWith [("acme", .object [])]) = .ok c' ∧
    c'.statements.inserted = some [("file", [])] :=
  ⟨_, _, _, _, rfl, rfl, rfl, rfl, rfl, rfl, rfl, rfl, rfl⟩

end ThreatGraph
