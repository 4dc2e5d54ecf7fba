import ThreatGraph.Proofs.Acceptance
import ThreatGraph.Proofs.Likeness
import ThreatGraph.Proofs.Tables
import ThreatGraph.Proofs.Trace

/-!
# The order of an object's members

An object whose members stand in another order is converted to the same, or fails for the same
reason (`convertObject_reordered`). What it is, and who plays which role in it, is looked up by
name. Its other properties are converted one after the other, but a lenient conversion makes of each
what it would make of it alone, up to the names of variables (`propertiesBy_alone`): in any order
they come to the same.

`Naming.Meet` compares two computations, each on a supply of its own: they fail alike, or their
results are related. Its laws carry a relation through the steps of a conversion, and permuting the
members is the only step where something is to be shown (`propertiesBy_perm`).
-/

namespace ThreatGraph

open Variables (nameOf)

/-! ## Computations that come to the same -/

namespace Naming

variable {ε α α' β β' : Type} {R : α → α' → Prop} {S : β → β' → Prop} {v v' w w' : Variables}

/-- `x` on one supply and `y` on another fail for the same reason, or succeed with results that `R`
relates. -/
def Meet (R : α → α' → Prop) (x : Naming ε α) (v : Variables) (y : Naming ε α') (v' : Variables) :
    Prop :=
  (∃ e, (x.outcome v).1 = .error e ∧ (y.outcome v').1 = .error e) ∨
    ∃ a a', (x.outcome v).1 = .ok a ∧ (y.outcome v').1 = .ok a' ∧ R a a'

namespace Meet

theorem pure {a : α} {a' : α'} (h : R a a') :
    Meet R (pure a : Naming ε α) v (pure a' : Naming ε α') v' :=
  .inr ⟨a, a', rfl, rfl, h⟩

theorem throw (e : ε) :
    Meet R (throw e : Naming ε α) v (throw e : Naming ε α') v' :=
  .inl ⟨e, rfl, rfl⟩

/-- Where both have succeeded, they meet if what follows does. -/
theorem bind_ok {x : Naming ε α} {y : Naming ε α'} {k : α → Naming ε β}
    {l : α' → Naming ε β'} {a : α} {a' : α'} (hx : x.outcome v = (.ok a, w))
    (hy : y.outcome v' = (.ok a', w')) (h : Meet S (k a) w (l a') w') :
    Meet S (x >>= k) v (y >>= l) v' := by
  rwa [Meet, outcome_bind, outcome_bind, hx, hy]

/-- Computations meet if their first steps do, and what follows does for related results. -/
theorem bind {x : Naming ε α} {y : Naming ε α'} {k : α → Naming ε β} {l : α' → Naming ε β'}
    (hxy : Meet R x v y v')
    (hkl : ∀ {a a' w w'}, x.outcome v = (.ok a, w) → y.outcome v' = (.ok a', w') → R a a' →
      Meet S (k a) w (l a') w') :
    Meet S (x >>= k) v (y >>= l) v' := by
  rcases hxy with ⟨e, hx, hy⟩ | ⟨a, a', hx, hy, h⟩
  · exact .inl ⟨e, bind_fails.mpr (.inl hx), bind_fails.mpr (.inl hy)⟩
  · have hx : x.outcome v = (.ok a, (x.outcome v).2) := Prod.ext hx rfl
    have hy : y.outcome v' = (.ok a', (y.outcome v').2) := Prod.ext hy rfl
    exact bind_ok hx hy (hkl hx hy h)

/-- What comes first is the same in both. -/
theorem bind_same {x : Naming ε α} {k : α → Naming ε β} {l : α → Naming ε β'}
    (hkl : ∀ {a w}, x.outcome v = (.ok a, w) → Meet S (k a) w (l a) w) :
    Meet S (x >>= k) v (x >>= l) v := by
  have hsame : Meet (fun a a' => a = a') x v x v := by
    rw [Meet]
    rcases (x.outcome v).1 with e | a
    · exact .inl ⟨e, rfl, rfl⟩
    · exact .inr ⟨a, a, rfl, rfl, rfl⟩
  refine hsame.bind fun hx hx' _ => ?_
  obtain ⟨⟨⟩, rfl⟩ := Prod.mk.inj (hx.symm.trans hx')
  exact hkl hx

/-- A result without variables is the same on both sides. -/
theorem ofExcept_bind {result : Except ε α} {k : α → Naming ε β} {l : α → Naming ε β'}
    (hkl : ∀ a, result = .ok a → Meet S (k a) v (l a) v') :
    Meet S (ofExcept result >>= k) v (ofExcept result >>= l) v' := by
  cases result with
  | error e => exact .throw e
  | ok a => exact hkl a rfl

end Meet

end Naming

open Naming

/-! ## Properties -/

namespace Subject

variable {s : Subject} {self : Reference} {v : Variables}
  {entry : String → Except MappingDefect (Option AttributeInfo)}

/-- Properties do not end a lenient conversion. -/
theorem property_lenient (hlenient : s.strict = false) (self : Reference) (label : String)
    (info : Option AttributeInfo) (raw : Json) (v : Variables) :
    ∃ c w, (s.property self label info raw).outcome v = (.ok c, w) := by
  cases info with
  | none => exact ⟨_, _, rfl⟩
  | some info =>
    rw [property, outcome_bind, outcome_attempt]
    rcases ((convertValue s.mapping ⟨self, info.name⟩ info.valueType raw).outcome v).1 with
      defect | converted
    · simp only [hlenient]
      exact ⟨_, _, rfl⟩
    · exact ⟨_, _, rfl⟩

/-- What a property is converted to if it is the first, when only the object itself has a
variable. -/
def alone (s : Subject) (self : Reference) (p : Property) : Collected :=
  match p.answer with
  | .error _ => {}
  | .ok info => ((s.property self p.label info p.raw).outcome ⟨1⟩).1.toOption.getD {}

/-- Whatever is converted before it, a property is converted to what it is alone. -/
theorem property_alone (hlenient : s.strict = false) (hself : self.First) (hv : 0 < v.issued)
    {label : String} {info : Option AttributeInfo} (raw : Json) :
    ∃ c w, (s.property self label info raw).outcome v = (.ok c, w) ∧ v.issued ≤ w.issued ∧
      c.Alike (s.alone self ⟨label, .ok info, raw⟩) := by
  obtain ⟨c, w, hfirst⟩ := property_lenient hlenient self label info raw ⟨1⟩
  have hlater := s.property_outcome hself hv label info raw
  rw [hfirst] at hlater
  refine ⟨_, _, hlater, (property_drawn hlater).le, ?_⟩
  rw [alone]
  simp only [hfirst]
  exact .rename _ c

/-- A lenient conversion converts each of some properties to what it is alone. -/
theorem propertiesBy_alone (label : String → String) (hlenient : s.strict = false)
    (hself : self.First) (hentry : ∀ name, ∃ info, entry name = .ok info) (members : Members)
    (hv : 0 < v.issued) :
    ∃ c w, (s.propertiesBy self entry label members).outcome v = (.ok c, w) ∧
      v.issued ≤ w.issued ∧
      c.Alike (.all (members.map fun member =>
        s.alone self ⟨label member.1, entry member.1, member.2⟩)) := by
  induction members generalizing v with
  | nil => exact ⟨_, _, rfl, Nat.le_refl _, .refl _⟩
  | cons member rest ih =>
    obtain ⟨name, raw⟩ := member
    obtain ⟨info, hinfo⟩ := hentry name
    obtain ⟨first, u, hfirst, hle, halike⟩ := property_alone hlenient hself hv raw
    obtain ⟨others, w, hothers, hle', halike'⟩ := ih (Nat.lt_of_lt_of_le hv hle)
    refine ⟨first ++ others, w, ?_, Nat.le_trans hle hle', ?_⟩
    · simp only [propertiesBy, ask, bind_eq_ok, ofExcept_eq_ok, mapError_eq_ok, pure_eq_ok]
      exact ⟨info, v, ⟨hinfo, rfl⟩, first, u, hfirst, others, w, hothers, rfl, rfl⟩
    · rw [← hinfo] at halike
      exact halike.append halike'

/-- Properties in another order are converted to the same. -/
theorem propertiesBy_perm (label : String → String) (hlenient : s.strict = false)
    (hself : self.First) (hentry : ∀ name, ∃ info, entry name = .ok info)
    {members members' : Members} (hmembers : members.Perm members') {v v' : Variables}
    (hv : 0 < v.issued) (hv' : 0 < v'.issued) :
    ∃ c w c' w', (s.propertiesBy self entry label members).outcome v = (.ok c, w) ∧
      (s.propertiesBy self entry label members').outcome v' = (.ok c', w') ∧
      v.issued ≤ w.issued ∧ v'.issued ≤ w'.issued ∧ c.Alike c' := by
  obtain ⟨c, w, hc, hle, halike⟩ :=
    propertiesBy_alone label hlenient hself hentry members hv
  obtain ⟨c', w', hc', hle', halike'⟩ :=
    propertiesBy_alone label hlenient hself hentry members' hv'
  exact ⟨c, w, c', w', hc, hc', hle, hle',
    halike.trans ((Collected.Alike.all (hmembers.map _)).trans halike'.symm)⟩

/-- All properties of an object, with those of its predefined extension, are converted to the same
if its members stand in another order. -/
theorem properties_meet {o : ObjectMapping} {object' : Members} (hlenient : s.strict = false)
    (ho : s.mapping.objects.get? s.stixType = some o) (hself : self.First)
    (hobject : s.object.Perm object') (roleplayers : List String) (extensions : Option Members)
    (hv : 0 < v.issued) :
    Meet Collected.Alike (s.properties self roleplayers extensions) v
      ((s.on object').properties self roleplayers extensions) v := by
  simp only [properties, ownProperties_eq, extensionProperties_eq, propertiesBy_on]
  obtain ⟨own, u, own', u', hown, hown', hle, hle', halike⟩ :=
    propertiesBy_perm id hlenient hself (Mapping.attribute?_isOk ho)
      (hobject.filter fun member => !roleplayers.contains member.1) hv hv
  refine .bind_ok hown hown' (.ofExcept_bind fun relevant hrelevant => ?_)
  cases relevant with
  | none => exact .pure halike
  | some extension =>
    obtain ⟨other, hother, hextension⟩ :=
      Mapping.relevantExtension_ok (mapError_eq_ok.mp hrelevant)
    obtain rfl := Option.some.inj (ho.symm.trans hother)
    dsimp only
    split
    · exact .throw _
    -- the members of the extension stand in the same order, but come after other properties
    · next members _ =>
      obtain ⟨more, w, more', w', hmore, hmore', -, -, halike'⟩ :=
        propertiesBy_perm (fun name => extension ++ "." ++ name) hlenient hself
          (Mapping.extensionAttribute?_isOk ho hextension) (.refl members)
          (Nat.lt_of_lt_of_le hv hle) (Nat.lt_of_lt_of_le hv hle')
      exact .bind_ok hmore hmore' (.pure (halike.append halike'))

end Subject

/-! ## Drafts and conversions -/

/-- An object type with a target type is mapped. -/
theorem Mapping.mapped_of_targetType? {m : Mapping} {stixId stixType typeName : String}
    {properties : Members} {extensions : Option Members}
    (h : m.targetType? stixId stixType properties extensions = .ok (some typeName)) :
    ∃ o, m.objects.get? stixType = some o := by
  unfold targetType? at h
  split at h
  · cases h
  · next o ho => exact ⟨o, ho⟩

namespace Subject

variable {s : Subject}

section Drafts

variable {object' : Members} {typeName : String} {o : ObjectMapping} (hlenient : s.strict = false)
  (ho : s.mapping.objects.get? s.stixType = some o) (hobject : s.object.Perm object')
include hlenient ho hobject

/-- Entities that are drafted from either order of the properties say the same. -/
theorem entityDraft_meet (extensions : Option Members) :
    Meet (fun d d' => d.1.Alike d'.1 ∧ d.2.Perm d'.2) (s.entityDraft typeName extensions) {}
      ((s.on object').entityDraft typeName extensions) {} := by
  refine .bind_same fun hvar => ?_
  obtain ⟨rfl, rfl⟩ := fresh_eq_ok.mp hvar
  have hproperties := properties_meet hlenient ho
    (Reference.known_first (some s.stixId) (some typeName)) hobject [] extensions Nat.one_pos
  refine hproperties.bind fun _ _ h => .pure ⟨⟨⟨_, _, rfl, rfl, ?_⟩, h.attachments⟩, h.skipped⟩
  exact .mainEntity h.attributes 0 typeName

/-- So do relations, as role players are looked up by their names. -/
theorem relationDraft_meet (hget : ∀ name, object'.get? name = s.object.get? name)
    (extensions : Option Members) :
    Meet (fun d d' => d.1.Alike d'.1 ∧ d.2.Perm d'.2) (s.relationDraft typeName extensions) {}
      ((s.on object').relationDraft typeName extensions) {} := by
  have hplayers (roleplayers : List String) :
      (s.on object').players typeName roleplayers = s.players typeName roleplayers :=
    s.players_with s.strict object' typeName fun _ _ => .inl (hget _)
  rw [relationDraft, relationDraft]
  refine .bind_same fun hvar => ?_
  obtain ⟨rfl, rfl⟩ := fresh_eq_ok.mp hvar
  refine .ofExcept_bind fun roleplayers _ => ?_
  rw [hplayers]
  refine .bind_same fun {players u} hu => ?_
  have hle : 0 < u.issued := (players_vars roleplayers hu).1
  have hproperties := properties_meet hlenient ho
    (Reference.known_first (some s.stixId) (some typeName)) hobject roleplayers extensions hle
  split
  · exact .bind_same fun hfails => absurd hfails throw_ne_ok
  · refine hproperties.bind fun _ _ h => .pure ⟨⟨⟨_, _, rfl, rfl, ?_⟩, h.attachments⟩, h.skipped⟩
    rw [relationName_on (hget relationshipType)]
    exact .mainRelation h.attributes s 0 typeName players

end Drafts

variable {object' : Members} (hlenient : s.strict = false) (hobject : s.object.Perm object')
  (hget : ∀ name, object'.get? name = s.object.get? name)
include hlenient hobject hget

theorem draft_meet (objectClass : ObjectClass) :
    Meet (fun d d' => d.1.Alike d'.1 ∧ d.2.Perm d'.2) (s.draft objectClass) {}
      ((s.on object').draft objectClass) {} := by
  rw [draft, draft, extensions_on (hget "extensions")]
  refine .ofExcept_bind fun extensions _ => ?_
  change Meet _ _ _ (ask (s.mapping.targetType? s.stixId s.stixType object' extensions) >>= _) _
  rw [targetType?_on (fun _ => hget _) rfl]
  refine .ofExcept_bind fun target htarget => ?_
  cases target with
  | none => exact .throw _
  | some typeName =>
    obtain ⟨o, ho⟩ := Mapping.mapped_of_targetType? (mapError_eq_ok.mp htarget)
    dsimp only
    split
    · exact relationDraft_meet hlenient ho hobject hget extensions
    · exact entityDraft_meet hlenient ho hobject extensions

/-- Either order fails for the same reason, or both conversions say the same. -/
theorem convert_on :
    (∃ defect, s.convert = .error defect ∧ (s.on object').convert = .error defect) ∨
      ∃ c c', s.convert = .ok c ∧ (s.on object').convert = .ok c' ∧ c.Alike c' := by
  cases hclass : s.mapping.classOf? s.stixType with
  | none =>
    have hnothing (object : Members) : (s.on object).convert = .ok { stixId := s.stixId } := by
      have hclass' : (s.on object).mapping.classOf? (s.on object).stixType = none := hclass
      rw [convert]
      rw [hclass']
      rfl
    exact .inr ⟨_, _, hnothing s.object, hnothing object', rfl, ⟨.none, .none, .none⟩, .refl _⟩
  | some objectClass =>
    rw [s.convert_eq_conversion hclass, (s.on object').convert_eq_conversion hclass]
    refine Meet.bind (draft_meet hlenient hobject hget objectClass) fun _ _ h => ?_
    obtain ⟨statements, statements', horder, horder', halike⟩ := h.1.order
    simp only [horder, horder', Except.mapError]
    exact .pure ⟨rfl, halike, h.2⟩

end Subject

/-- **The order of members.** If the members of an object, no two of which have the same name, stand
in another order, then a lenient conversion fails for the same reason, or it succeeds too and says
the same: the same things are matched and inserted, up to the order in which they and their values
come and up to the names of variables, and the same properties are skipped. -/
theorem convertObject_reordered {m : Mapping} {object object' : Members}
    (hnames : (Table.names object).Nodup) (hobject : object.Perm object') :
    (∃ defect, convertObject m false object = .error defect ∧
      convertObject m false object' = .error defect) ∨
    ∃ c c', convertObject m false object = .ok c ∧ convertObject m false object' = .ok c' ∧
      c.Alike c' := by
  have hget (name : String) : object'.get? name = object.get? name :=
    (Table.get?_perm hnames hobject name).symm
  have hrequired (name : String) (stixId : Option String) :
      Subject.requiredText object' name stixId = Subject.requiredText object name stixId := by
    rw [Subject.requiredText, Subject.requiredText, hget]
  -- look-ups do not see the order, so both objects are identified alike
  have hidentify : Subject.identify m false object' =
      (Subject.identify m false object).map fun s => s.on object' := by
    simp only [Subject.identify, hrequired]
    rcases Subject.requiredText object "id" none with rejection | stixId
    · rfl
    · change (Subject.requiredText object "type" (some stixId) >>= _) =
        Except.map _ (Subject.requiredText object "type" (some stixId) >>= _)
      rcases Subject.requiredText object "type" (some stixId) with rejection | stixType <;> rfl
  rw [convertObject, convertObject, hidentify]
  rcases hs : Subject.identify m false object with rejection | s
  · exact .inl ⟨_, rfl, rfl⟩
  · obtain ⟨stixId, stixType, -, -, rfl⟩ := Subject.identify_eq_ok.mp hs
    exact Subject.convert_on rfl hobject hget

/-- The properties of a tool from back to front: the link to its maker draws the variables that the
phases have used up in vain otherwise. -/
theorem convertObject_reordered_tool : ∃ m c c', Mapping.ofDocuments toolDocuments = .ok m ∧
    convertObject m false misphasedTool = .ok c ∧
    convertObject m false misphasedTool.reverse = .ok c' ∧
    c.statements.vars = ["v0", "v5", "v4", "v6"] ∧ c'.statements.vars = ["v0", "v2", "v1", "v3"] ∧
    c.Alike c' := by
  have hrun : ∃ m c c', Mapping.ofDocuments toolDocuments = .ok m ∧
      convertObject m false misphasedTool = .ok c ∧
      convertObject m false misphasedTool.reverse = .ok c' ∧
      c.statements.vars = ["v0", "v5", "v4", "v6"] ∧
      c'.statements.vars = ["v0", "v2", "v1", "v3"] :=
    ⟨_, _, _, rfl, rfl, rfl, by decide +kernel, by decide +kernel⟩
  obtain ⟨m, c, c', hm, hc, hc', hvars, hvars'⟩ := hrun
  refine ⟨m, c, c', hm, hc, hc', hvars, hvars', ?_⟩
  have hnames : (Table.names misphasedTool).Nodup := by decide +kernel
  rcases convertObject_reordered hnames (List.reverse_perm misphasedTool).symm with
    ⟨defect, hdefect, -⟩ | ⟨d, d', hd, hd', halike⟩
  · cases hc.symm.trans hdefect
  · obtain rfl := Except.ok.inj (hc.symm.trans hd)
    obtain rfl := Except.ok.inj (hc'.symm.trans hd')
    exact halike

end ThreatGraph
