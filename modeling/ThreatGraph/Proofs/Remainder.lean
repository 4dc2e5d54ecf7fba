import ThreatGraph.Proofs.Omission

/-!
# Objects without one of their properties

What remains of an object if a property is left out, one of its own or one of its predefined
extension (`Subject.Without`). The few properties that say what the object is are not left out, so
the rest is identified as the same object, is of the same type in the target schema, and has the
same role players.

Everything that is asked about an object before its properties are converted is asked of single
members by name. There is a lemma for each of these questions that says on which members it hangs,
and `Without` leaves the answer to each of them as it is.
-/

namespace ThreatGraph

open Variables (nameOf between)
open Naming

/-- A name that something is found under is listed. -/
theorem Table.mem_names_of_get? {α : Type} {t : Table α} {name : String} {value : α}
    (h : t.get? name = some value) : name ∈ t.names :=
  List.mem_map_of_mem (Table.mem_of_get? h)

/-- What is looked for is the first member or is found behind it. -/
theorem Members.get?_cons (member : String × Json) (members : Members) (name : String) :
    Members.get? (member :: members) name =
      if member.1 = name then some member.2 else members.get? name :=
  Table.get?_cons ..

/-- Which extension counts shows from their names alone. -/
theorem Mapping.relevantExtension_set {m : Mapping} {stixId stixType extension : String}
    {extensions : Members} {old : Json} (h : extensions.get? extension = some old) (value : Json) :
    m.relevantExtension stixId stixType (some (Table.set extensions extension value)) =
      m.relevantExtension stixId stixType (some extensions) := by
  have hnames : Table.names (Table.set extensions extension value) = Table.names extensions := by
    rw [Table.names_set, if_pos (Table.mem_names_of_get? h)]
  unfold relevantExtension
  cases m.objects.get? stixType with
  | none => rfl
  | some o => simp only [hnames]

/-! ## The rest of an object -/

namespace Subject

/-- The same object with other members. -/
def on (s : Subject) (object : Members) : Subject := { s with object }

@[simp] theorem on_object (s : Subject) (object : Members) : (s.on object).object = object := rfl

/-- The properties that are taken as role players; only relationships have some. -/
def roleplayers (s : Subject) : List String :=
  if s.mapping.classOf? s.stixType = some .relationship then
    (s.mapping.roleplayerProperties s.stixType).toOption.getD []
  else []

/-- The role players of a relationship are those that its type has. -/
theorem roleplayers_eq {s : Subject} {roleplayers : List String}
    (hclass : s.mapping.classOf? s.stixType = some .relationship)
    (h : s.mapping.roleplayerProperties s.stixType = .ok roleplayers) :
    s.roleplayers = roleplayers := by
  rw [Subject.roleplayers, if_pos hclass, h]
  rfl

/-- An object that is no relationship has no role players. -/
theorem roleplayers_eq_nil {s : Subject} {objectClass : ObjectClass}
    (hclass : s.mapping.classOf? s.stixType = some objectClass)
    (hne : objectClass ≠ .relationship) : s.roleplayers = [] := by
  rw [Subject.roleplayers, hclass, if_neg fun heq => hne (Option.some.inj heq)]

/-- The members of the object but for its role players. -/
def ownMembers (s : Subject) : Members :=
  s.object.filter fun member => !s.roleplayers.contains member.1

/-- The predefined extension of the object, with its members. -/
def extension? (s : Subject) : Option (String × Members) := do
  let extensions ← (s.object.get? "extensions").bind Json.members?
  let name ← (s.mapping.relevantExtension s.stixId s.stixType (some extensions)).toOption.join
  let members ← (extensions.get? name).bind Json.members?
  return (name, members)

/-- The names under which properties can be reported: those of the object but for its role
players, and those of its predefined extension. -/
def labels (s : Subject) : List String :=
  Table.names s.ownMembers ++
    s.extension?.elim [] fun (extension, members) =>
      (Table.names members).map fun name => extension ++ "." ++ name

/-- The property by whose value the type of the object is chosen. -/
def subtypeProperty? (s : Subject) : Option String :=
  ((s.mapping.objects.get? s.stixType).bind ObjectMapping.subtypes).map SubtypeTable.property

/-- What is known of the object when its properties are converted: its variable is the first. -/
def reference (s : Subject) : Reference :=
  .known (some s.stixId) (some (nameOf 0)) (do
    let extensions ← s.extensions.toOption
    (s.mapping.targetType? s.stixId s.stixType s.object extensions).toOption.join)

/-- `s.Without p object`: `object` is what remains of the object if the property `p` is left out.
The properties that say what the object is stay. -/
inductive Without (s : Subject) : Property → Members → Prop
  /-- a property of the object itself -/
  | own {before after : Members} {p : String} {raw : Json} :
    s.object = before ++ (p, raw) :: after →
    p ∉ ["id", "type", "extensions", relationshipType] → p ∉ s.roleplayers →
    s.subtypeProperty? ≠ some p →
    Without s ⟨p, s.mapping.attribute? s.stixType p, raw⟩ (before ++ after)
  /-- a property of its predefined extension, if the mapping says that extensions as such are not
  kept -/
  | inside {extensions before after : Members} {extension p : String} {raw : Json}
    {info : AttributeInfo} :
    s.object.get? "extensions" = some (.object extensions) →
    s.extension? = some (extension, before ++ (p, raw) :: after) →
    s.mapping.attribute? s.stixType "extensions" = .ok (some info) → info.valueType = .empty →
    Without s ⟨extension ++ "." ++ p, s.mapping.extensionAttribute? s.stixType extension p, raw⟩
      (Table.set s.object "extensions"
        (.object (Table.set extensions extension (.object (before ++ after)))))

variable {s : Subject} {object' : Members} {p : Property}

/-! ## What hangs on single members -/

/-- Another object with the same extensions is asked in the same way. -/
theorem extensions_on (hget : object'.get? "extensions" = s.object.get? "extensions") :
    (s.on object').extensions = s.extensions := by
  rw [extensions, extensions]
  rw [on_object, hget]
  rfl

/-- An object is identified by its identifier and its type alone. -/
theorem identify_on {m : Mapping} {strict : Bool} (hid : object'.get? "id" = s.object.get? "id")
    (htype : object'.get? "type" = s.object.get? "type")
    (hs : Subject.identify m strict s.object = .ok s) :
    Subject.identify m strict object' = .ok (s.on object') := by
  obtain ⟨stixId, stixType, hstixId, hstixType, heq⟩ := identify_eq_ok.mp hs
  refine identify_eq_ok.mpr ⟨stixId, stixType, ?_, ?_, ?_⟩
  · rwa [requiredText, hid]
  · rwa [requiredText, htype]
  · rw [on, heq]

/-- Another object with the same kind keeps the same name. -/
theorem relationName_on {typeName : String}
    (hget : object'.get? relationshipType = s.object.get? relationshipType) :
    (s.on object').relationName typeName = s.relationName typeName := by
  rw [relationName, relationName, Members.text?, Members.text?, on_object, hget]

/-- The type in the target schema hangs on the property by which it is chosen, and on which
extension is relevant. -/
theorem targetType?_on
    (hget : ∀ {name}, s.subtypeProperty? = some name → object'.get? name = s.object.get? name)
    {extensions extensions' : Option Members}
    (hrelevant : s.mapping.relevantExtension s.stixId s.stixType extensions' =
      s.mapping.relevantExtension s.stixId s.stixType extensions) :
    s.mapping.targetType? s.stixId s.stixType object' extensions' =
      s.mapping.targetType? s.stixId s.stixType s.object extensions := by
  unfold Mapping.targetType?
  cases hobject : s.mapping.objects.get? s.stixType with
  | none => rfl
  | some o =>
    have hselected : Mapping.selectedType o s.stixId s.stixType object' =
        Mapping.selectedType o s.stixId s.stixType s.object := by
      unfold Mapping.selectedType
      cases hsubtypes : o.subtypes with
      | none => rfl
      | some subtypes =>
        have hproperty : s.subtypeProperty? = some subtypes.property := by
          simp [subtypeProperty?, hobject, hsubtypes]
        simp only [hget hproperty]
    simp only [hselected, hrelevant]

/-! ## What the rest has in common with the object -/

/-- Leaving one property out leaves what is found under other names. -/
theorem get?_without {before after : Members} {p name : String} {raw : Json} (h : name ≠ p) :
    Members.get? (before ++ (p, raw) :: after) name = Members.get? (before ++ after) name := by
  induction before with
  | nil => exact (Table.get?_cons _ _ _).trans (if_neg h.symm)
  | cons member rest ih =>
    rw [List.cons_append, List.cons_append, Members.get?_cons, Members.get?_cons, ih]

/-- The extension that is converted is one that the object has and that is relevant. -/
theorem extension?_eq_some {extension : String} {members : Members} :
    s.extension? = some (extension, members) ↔
      ∃ extensions : Members, s.object.get? "extensions" = some (.object extensions) ∧
        s.mapping.relevantExtension s.stixId s.stixType (some extensions) = .ok (some extension) ∧
        extensions.get? extension = some (.object members) := by
  have hmembers {raw : Json} {m : Members} : raw.members? = some m ↔ raw = .object m := by
    cases raw <;> simp [Json.members?]
  have hok {answer : Except MappingDefect (Option String)} {name : String} :
      answer.toOption.join = some name ↔ answer = .ok (some name) := by
    cases answer <;> simp [Except.toOption]
  rw [extension?]
  simp only [Option.bind_eq_bind, Option.bind_eq_some_iff, hmembers, hok]
  constructor
  · rintro ⟨extensions, ⟨_, hextensions, rfl⟩, name, hname, found, ⟨_, hfound, rfl⟩, hpair⟩
    obtain ⟨rfl, rfl⟩ := Prod.mk.inj (Option.some.inj hpair)
    exact ⟨extensions, hextensions, hname, hfound⟩
  · rintro ⟨extensions, hextensions, hname, hfound⟩
    exact ⟨extensions, ⟨_, hextensions, rfl⟩, extension, hname, members, ⟨_, hfound, rfl⟩, rfl⟩

/-- The predefined extension is the one that the mapping answers with. -/
theorem extension?_of_relevant {extensions : Option Members} {relevant : Option String}
    (hextensions : s.extensions = .ok extensions)
    (hrelevant : s.mapping.relevantExtension s.stixId s.stixType extensions = .ok relevant) :
    s.extension? = relevant.bind fun name =>
      ((extensions.bind fun found => found.get? name).bind Json.members?).map fun members =>
        (name, members) := by
  rw [Subject.extensions] at hextensions
  rw [extension?]
  cases hget : s.object.get? "extensions" with
  | none =>
    rw [hget] at hextensions
    obtain rfl := Except.ok.inj hextensions
    cases relevant <;> rfl
  | some raw =>
    rw [hget] at hextensions
    cases raw with
    | object found =>
      obtain rfl := Except.ok.inj hextensions
      simp only [Option.bind_eq_bind, Option.bind_some, Json.members?, hrelevant]
      cases relevant with
      | none => rfl
      | some name => exact Option.map_eq_bind.symm
    | _ => cases hextensions

/-- Without an extension, the labels are the names of the object's own properties. -/
theorem labels_of_none (h : s.extension? = none) : s.labels = Table.names s.ownMembers := by
  rw [labels, h, Option.elim, List.append_nil]

/-- With one, the labels of its properties stand behind them. -/
theorem labels_of_some {extension : String} {members : Members}
    (h : s.extension? = some (extension, members)) :
    s.labels = Table.names s.ownMembers ++
      (Table.names members).map fun property => extension ++ "." ++ property := by
  rw [labels, h]
  rfl

/-- A property that names no role player is one of the object's own. -/
theorem ownMembers_eq {before after : Members} {p : String} {raw : Json}
    (hobject : s.object = before ++ (p, raw) :: after) (hroleplayer : p ∉ s.roleplayers) :
    s.ownMembers = before.filter (fun member => !s.roleplayers.contains member.1) ++
      (p, raw) :: after.filter fun member => !s.roleplayers.contains member.1 := by
  have hkeep : (!s.roleplayers.contains p) = true := by simpa using hroleplayer
  rw [ownMembers, hobject, List.filter_append, List.filter_cons_of_pos (by exact hkeep)]

/-- The rest has the same identifier, the same type and the same name of a relationship. -/
theorem Without.get?_eq (h : s.Without p object') {name : String}
    (hname : name ∈ ["id", "type", relationshipType]) :
    object'.get? name = s.object.get? name := by
  cases h with
  | @own before after _ raw hobject hp _ _ =>
    rw [hobject]
    refine (get?_without ?_).symm
    rintro rfl
    simp only [List.mem_cons, List.not_mem_nil, or_false] at hname hp
    tauto
  | inside =>
    refine (Table.get?_set ..).trans (if_neg ?_)
    rintro rfl
    simp [relationshipType] at hname

/-- What the type is chosen by is the same, unless the type is chosen by the extensions. -/
theorem Without.get?_subtype (h : s.Without p object')
    (hextensions : s.subtypeProperty? = some "extensions" →
      object'.get? "extensions" = s.object.get? "extensions")
    {name : String} (hname : s.subtypeProperty? = some name) :
    object'.get? name = s.object.get? name := by
  by_cases heq : name = "extensions"
  · exact heq ▸ hextensions (heq ▸ hname)
  · cases h with
    | own hobject _ _ hsubtype =>
      rw [hobject]
      refine (get?_without ?_).symm
      rintro rfl
      exact hsubtype hname
    | inside => exact (Table.get?_set ..).trans (if_neg fun h => heq h.symm)

/-- Role players are the same, or are objects in both, which are no role players. -/
theorem Without.get?_roleplayer (h : s.Without p object') {name : String}
    (hname : name ∈ s.roleplayers) : object'.get? name = s.object.get? name ∨
      ∃ a b, s.object.get? name = some (.object a) ∧ object'.get? name = some (.object b) := by
  cases h with
  | own hobject _ hp _ =>
    rw [hobject]
    refine .inl (get?_without ?_).symm
    rintro rfl
    exact hp hname
  | @inside extensions before after extension p raw info hextensions =>
    by_cases heq : name = "extensions"
    · subst heq
      exact .inr ⟨extensions, _, hextensions, (Table.get?_set ..).trans (if_pos rfl)⟩
    · exact .inl ((Table.get?_set ..).trans (if_neg fun h => heq h.symm))

/-- The rest is identified as the same object. -/
theorem Without.identify {m : Mapping} {strict : Bool} (h : s.Without p object')
    (hs : identify m strict s.object = .ok s) :
    Subject.identify m strict object' = .ok (s.on object') :=
  identify_on (h.get?_eq (by simp)) (h.get?_eq (by simp)) hs

/-- The type in the target schema is chosen alike for the rest. -/
theorem Without.targetType? (h : s.Without p object')
    (hsubtype : s.subtypeProperty? = some "extensions" →
      object'.get? "extensions" = s.object.get? "extensions")
    {extensions extensions' : Option Members}
    (hrelevant : s.mapping.relevantExtension s.stixId s.stixType extensions' =
      s.mapping.relevantExtension s.stixId s.stixType extensions) :
    s.mapping.targetType? s.stixId s.stixType object' extensions' =
      s.mapping.targetType? s.stixId s.stixType s.object extensions :=
  targetType?_on (fun hname => h.get?_subtype hsubtype hname) hrelevant

/-- The rest has the same role players. -/
theorem Without.players (h : s.Without p object') (typeName : String) :
    (s.on object').players typeName s.roleplayers = s.players typeName s.roleplayers :=
  s.players_with s.strict object' typeName fun _ => h.get?_roleplayer

/-- The rest calls itself as the object does. -/
theorem Without.mainRelation (h : s.Without p object') (n : Nat) (typeName : String)
    (players : List (String × Entity)) (attributes : List (String × List String)) :
    (s.on object').mainRelation n typeName players attributes =
      s.mainRelation n typeName players attributes := by
  unfold Subject.mainRelation
  rw [relationName_on (h.get?_eq (by simp))]

end Subject

end ThreatGraph
