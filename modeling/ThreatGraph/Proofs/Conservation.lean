import ThreatGraph.Proofs.Acceptance
import ThreatGraph.Proofs.Precedence
import ThreatGraph.Proofs.Scope

/-!
# No object is lost

A collection is put together from the shares of its objects, and each share hangs on its object
alone. An object fails and is reported, or its type has no class and it is nothing, or it has one
statement in the slot of its class; there are links only beside that statement (`Share`). So the
objects can be counted off against the statements, the failures and the custom objects, whichever
objects there are and in whichever order they come.

Only what is said of one object looks into its conversion (`Collection.ofObject_share`). Shares are
counted one by one (`Share.counted`), and a run only appends them (`ofObjects_append`), so that the
counts of a collection follow by induction over the objects.
-/

namespace ThreatGraph

open Naming

/-- Whether the object has an identifier and a type, and the type has no class. -/
def Mapping.isCustom (m : Mapping) (object : Members) : Bool :=
  match object.text? "id", object.text? "type" with
  | some stixId, some stixType =>
    !stixId.isEmpty && !stixType.isEmpty && (m.classOf? stixType).isNone
  | _, _ => false

/-- The report of an object that fails. -/
def Failure.ofObject? (m : Mapping) (strict : Bool) (object : Members) : Option Failure :=
  match convertObject m strict object with
  | .ok _ => none
  | .error defect => some ⟨object.text? "id", defect⟩

variable {m : Mapping} {strict : Bool} {object : Members}

/-! ## One object -/

/-- An object is identified exactly if its identifier and its type are texts with characters. -/
theorem Subject.identify_eq_ok_iff {s : Subject} :
    identify m strict object = .ok s ↔
      object.text? "id" = some s.stixId ∧ s.stixId ≠ "" ∧
        object.text? "type" = some s.stixType ∧ s.stixType ≠ "" ∧
        s = ⟨m, strict, object, s.stixId, s.stixType⟩ := by
  simp only [identify_eq_ok, requiredText_eq_ok_iff]
  constructor
  · rintro ⟨stixId, stixType, ⟨hid, hid'⟩, ⟨htype, htype'⟩, rfl⟩
    exact ⟨hid, hid', htype, htype', rfl⟩
  · rintro ⟨hid, hid', htype, htype', hs⟩
    exact ⟨_, _, ⟨hid, hid'⟩, ⟨htype, htype'⟩, hs⟩

/-- An object is custom exactly if it is identified and its type has no class. -/
theorem Mapping.isCustom_iff (strict : Bool) :
    m.isCustom object = true ↔
      ∃ s, Subject.identify m strict object = .ok s ∧ m.classOf? s.stixType = none := by
  simp only [Subject.identify_eq_ok_iff]
  unfold isCustom
  split
  · next stixId stixType hid htype =>
    simp only [Bool.and_eq_true, Bool.not_eq_true', String.isEmpty_eq_false_iff,
      Option.isNone_iff_eq_none]
    constructor
    · rintro ⟨⟨hid', htype'⟩, hclass⟩
      exact ⟨⟨m, strict, object, stixId, stixType⟩, ⟨hid, hid', htype, htype', rfl⟩, hclass⟩
    · rintro ⟨s, ⟨hsid, hid', hstype, htype', -⟩, hclass⟩
      obtain rfl := Option.some.inj (hid.symm.trans hsid)
      obtain rfl := Option.some.inj (htype.symm.trans hstype)
      exact ⟨⟨hid', htype'⟩, hclass⟩
  · next hnot =>
    refine ⟨nofun, ?_⟩
    rintro ⟨s, ⟨hid, -, htype, -, -⟩, -⟩
    exact absurd htype (hnot _ _ hid)

/-- An object whose type has a class is not custom. -/
theorem Mapping.isCustom_eq_false {objectClass : ObjectClass}
    (h : (object.text? "type").bind m.classOf? = some objectClass) :
    m.isCustom object = false := by
  refine Bool.eq_false_iff.mpr fun hcustom => ?_
  obtain ⟨s, hs, hnone⟩ := (isCustom_iff false).mp hcustom
  obtain ⟨-, -, htype, -, -⟩ := Subject.identify_eq_ok_iff.mp hs
  rw [htype, Option.bind_some, hnone] at h
  cases h

/-- A custom object is converted to nothing but its identifier. -/
theorem convertObject_custom (h : m.isCustom object = true) :
    ∃ stixId, convertObject m strict object = .ok { stixId } := by
  obtain ⟨s, hs, hclass⟩ := (Mapping.isCustom_iff strict).mp h
  obtain ⟨stixId, stixType, -, -, rfl⟩ := Subject.identify_eq_ok.mp hs
  have hconvert : Subject.convert ⟨m, strict, object, stixId, stixType⟩ = .ok { stixId } := by
    rw [Subject.convert]
    rw [hclass]
  refine ⟨stixId, ?_⟩
  rw [convertObject, hs]
  exact hconvert

/-- What one object adds to a collection, by what becomes of it. -/
inductive Share (m : Mapping) (strict : Bool) (object : Members) : Collection → Prop where
  /-- it fails, and nothing of it is left but the report -/
  | failed {defect : ObjectDefect} :
    convertObject m strict object = .error defect → m.isCustom object = false →
      Share m strict object { objects := 1, failures := [⟨object.text? "id", defect⟩] }
  /-- its type has no class, and nothing of it is left -/
  | custom {stixId : String} :
    convertObject m strict object = .ok { stixId } → m.isCustom object = true →
      Share m strict object { objects := 1 }
  /-- it is stored as an entity, under the first of its variables, maybe with links -/
  | entity {stixId : String} {objectClass : ObjectClass} {statement : Statement} {e : Entity}
      {embedded : Option Statement} {skipped : List Skipped} :
    convertObject m strict object =
      .ok { stixId, statements := { entities := some statement, embedded }, skipped } →
    object.text? "id" = some stixId →
    (object.text? "type").bind m.classOf? = some objectClass → objectClass ≠ .relationship →
    statement.inserted.head? = some (.entity e) → e.var = Variables.nameOf 0 →
      Share m strict object
        { objects := 1, entities := [statement], embedded := embedded.toList,
          skipped := skipped.map fun skipped => (stixId, skipped) }
  /-- it is stored as a relation, under the first of its variables, maybe with links -/
  | relation {stixId : String} {statement : Statement} {r : Relation}
      {embedded : Option Statement} {skipped : List Skipped} :
    convertObject m strict object =
      .ok { stixId, statements := { relations := some statement, embedded }, skipped } →
    object.text? "id" = some stixId →
    (object.text? "type").bind m.classOf? = some .relationship →
    statement.inserted.head? = some (.relation r) → r.var = Variables.nameOf 0 →
      Share m strict object
        { objects := 1, relations := [statement], embedded := embedded.toList,
          skipped := skipped.map fun skipped => (stixId, skipped) }

/-- The main thing of a draft is an entity or a relation, as the class of the object says, and has
the first variable. -/
theorem Subject.draft_kind {s : Subject} {objectClass : ObjectClass} {d : Draft}
    {skipped : List Skipped} {v w : Variables}
    (h : (s.draft objectClass).outcome v = (.ok (d, skipped), w)) :
    (objectClass ≠ .relationship ∧ ∃ e, d.main = some (.entity e) ∧
        e.var = Variables.nameOf v.issued) ∨
      (objectClass = .relationship ∧ ∃ r players, d.main = some (.relation r players) ∧
        r.var = Variables.nameOf v.issued) := by
  obtain ⟨extensions, typeName, -, -, h⟩ := draft_eq_ok.mp h
  split at h
  · next hrelationship =>
    obtain ⟨_, players, _, collected, -, -, -, -, heq⟩ := relationDraft_eq_ok.mp h
    obtain ⟨rfl, -⟩ := Prod.mk.inj heq
    exact .inr ⟨hrelationship, _, _, rfl, mainRelation_var (s := s) v.issued typeName players _⟩
  · next hentity =>
    obtain ⟨collected, -, heq⟩ := entityDraft_eq_ok.mp h
    obtain ⟨rfl, -⟩ := Prod.mk.inj heq
    exact .inl ⟨hentity, _, rfl, mainEntity_var v.issued typeName _⟩

/-- Every object has its share: it is converted or reported, and what is converted goes to the slot
of its class. -/
theorem Collection.ofObject_share (m : Mapping) (strict : Bool) (object : Members) :
    Share m strict object (ofObject m strict object) := by
  cases hresult : convertObject m strict object with
  | error defect =>
    rw [ofObject, hresult]
    refine .failed hresult (Bool.eq_false_iff.mpr fun hcustom => ?_)
    obtain ⟨stixId, hconverted⟩ := convertObject_custom hcustom
    cases hresult.symm.trans hconverted
  | ok conversion =>
    rw [ofObject, hresult]
    obtain ⟨s, hs, hconvert⟩ := convertObject_ok hresult
    obtain ⟨hid, -, htype, -, hsubject⟩ := Subject.identify_eq_ok_iff.mp hs
    have hmapping : s.mapping = m := by rw [hsubject]
    -- a custom type yields nothing; otherwise the main thing decides which slot is used
    rcases Subject.convert_ok hconvert with
      ⟨hclass, rfl⟩ | ⟨objectClass, d, skipped, w, statements, hclass, hdraft, horder, rfl⟩
    · rw [hmapping] at hclass
      exact .custom hresult ((Mapping.isCustom_iff strict).mpr ⟨s, hs, hclass⟩)
    · have hclassed : (object.text? "type").bind m.classOf? = some objectClass := by
        rw [htype, ← hmapping]
        exact hclass
      rcases Subject.draft_kind hdraft with
        ⟨hentity, e, hmain, hvar⟩ | ⟨rfl, r, players, hmain, hvar⟩
      · simp only [Draft.order_eq, hmain, Except.ok.injEq] at horder
        subst horder
        exact .entity hresult hid hclassed hentity rfl hvar
      · simp only [Draft.order_eq, hmain, Except.ok.injEq] at horder
        subst horder
        exact .relation hresult hid hclassed rfl hvar

/-- The share of an object holds one thing: its statement, its report or, if it is custom, nothing
but itself. -/
theorem Share.counted {c : Collection} (h : Share m strict object c) :
    c.entities.length + c.relations.length + c.failures.length +
      (if m.isCustom object then 1 else 0) = 1 := by
  cases h with
  | failed _ hcustom => simp [hcustom]
  | custom _ hcustom => simp [hcustom]
  | entity _ _ hclass _ _ _ => simp [Mapping.isCustom_eq_false hclass]
  | relation _ _ hclass _ _ => simp [Mapping.isCustom_eq_false hclass]

/-! ## Many objects -/

namespace Collection

variable (m : Mapping) (strict : Bool)

section Append

variable (a b c : Collection)

/-- Collections that are joined count the objects of both. -/
theorem objects_append : (a ++ b).objects = a.objects + b.objects := rfl

theorem entities_append : (a ++ b).entities = a.entities ++ b.entities := rfl

theorem relations_append : (a ++ b).relations = a.relations ++ b.relations := rfl

theorem failures_append : (a ++ b).failures = a.failures ++ b.failures := rfl

theorem skipped_append : (a ++ b).skipped = a.skipped ++ b.skipped := rfl

theorem append_assoc : a ++ b ++ c = a ++ (b ++ c) := by
  change append (append a b) c = append a (append b c)
  simp only [append, Nat.add_assoc, List.append_assoc]

theorem empty_append : {} ++ c = c := by
  change append {} c = c
  simp [append]

end Append

/-- Objects are collected one after the other, so that lists of them may be cut anywhere. -/
theorem ofObjects_append (xs ys : List Members) :
    ofObjects m strict (xs ++ ys) = ofObjects m strict xs ++ ofObjects m strict ys := by
  induction xs with
  | nil => exact (empty_append _).symm
  | cons object rest ih => rw [List.cons_append, ofObjects, ofObjects, ih, append_assoc]

theorem objects_ofObject (object : Members) : (ofObject m strict object).objects = 1 := by
  unfold ofObject
  split <;> rfl

theorem failures_ofObject (object : Members) :
    (ofObject m strict object).failures = (Failure.ofObject? m strict object).toList := by
  unfold ofObject Failure.ofObject?
  cases convertObject m strict object <;> rfl

/-- The reports of a list of objects are those of its objects, in order. -/
theorem ofObjects_reports (objects : List Members) :
    (ofObjects m strict objects).objects = objects.length ∧
      (ofObjects m strict objects).failures = objects.filterMap (Failure.ofObject? m strict) ∧
      (ofObjects m strict objects).skipped =
        objects.flatMap fun object => (ofObject m strict object).skipped := by
  induction objects with
  | nil => exact ⟨rfl, rfl, rfl⟩
  | cons object rest ih =>
    obtain ⟨hobjects, hfailures, hskipped⟩ := ih
    refine ⟨?_, ?_, ?_⟩
    · rw [ofObjects, objects_append, objects_ofObject, hobjects, List.length_cons, Nat.add_comm]
    · rw [ofObjects, failures_append, failures_ofObject, hfailures, List.filterMap_cons]
      cases Failure.ofObject? m strict object <;> rfl
    · rw [ofObjects, skipped_append, hskipped, List.flatMap_cons]

/-- Each object of a list is stored as an entity or as a relation, has failed, or is custom. -/
theorem ofObjects_counted (objects : List Members) :
    (ofObjects m strict objects).entities.length + (ofObjects m strict objects).relations.length +
        (ofObjects m strict objects).failures.length + objects.countP m.isCustom =
      objects.length := by
  induction objects with
  | nil => rfl
  | cons object rest ih =>
    have hshare := (ofObject_share m strict object).counted
    rw [ofObjects, entities_append, relations_append, failures_append, List.length_append,
      List.length_append, List.length_append, List.countP_cons, List.length_cons]
    omega

/-- **No object is lost.** Whatever the mapping, objects that come together are converted to what
they are converted to apart, so none influences another and the variables of each start anew. The
failures are those of the objects that fail, in their order, and the skipped properties are those of
each object that is converted, under its identifier. Each object has its share: one statement in the
slot of its class, and links only beside it, or a report, or nothing if it is custom. So the
statements of the first two slots, the failures and the custom objects are as many as the objects.
-/
theorem ofObjects_conserves :
    (∀ xs ys, ofObjects m strict (xs ++ ys) = ofObjects m strict xs ++ ofObjects m strict ys) ∧
      (∀ object, Share m strict object (ofObject m strict object)) ∧
      ∀ objects : List Members,
        let c := ofObjects m strict objects
        let shares (part : Collection → List Statement) :=
          objects.flatMap fun object => part (ofObject m strict object)
        c.objects = objects.length ∧
          c.entities = shares Collection.entities ∧
          c.relations = shares Collection.relations ∧
          c.embedded = shares Collection.embedded ∧
          c.failures = objects.filterMap (Failure.ofObject? m strict) ∧
          c.skipped = (objects.flatMap fun object => (ofObject m strict object).skipped) ∧
          c.entities.length + c.relations.length + c.failures.length +
            objects.countP m.isCustom = c.objects := by
  refine ⟨ofObjects_append m strict, ofObject_share m strict, fun objects => ?_⟩
  obtain ⟨hobjects, hfailures, hskipped⟩ := ofObjects_reports m strict objects
  obtain ⟨hentities, hrelations, hembedded⟩ := ofObjects_eq m strict objects
  refine ⟨hobjects, hentities, hrelations, hembedded, hfailures, hskipped, ?_⟩
  rw [hobjects]
  exact ofObjects_counted m strict objects

end Collection

end ThreatGraph
