import Mathlib
import ThreatGraph.Proofs.Consistency
import ThreatGraph.Proofs.Entries
import ThreatGraph.Proofs.Failure

/-!
# What an accepted mapping leaves to fail

Documents are checked against each other when a mapping is put together from them, so conversions
need not fear for what they look up later. Under a consistent mapping an object is converted, or
fails for one of the reasons of `Subject.Fails`: every type that has a class is mapped, a target
type is one of those for which the roles were checked, and an extension is asked for only after it
was found. `convertObject_fails` says what is then left to fail.

The proofs keep the order of a conversion: questions about the type first, then properties, role
players and the draft, each with the reasons for which it can fail (`FailsBy`). Only at the end is
it asked which of these reasons an accepted mapping rules out (`Mapping.RulesOut`).
-/

namespace ThreatGraph

open Naming

variable {m : Mapping}

/-! ## Questions about a type -/

/-- Failures of an object of any class: its identifier or its type is missing or no text, what
should be an object is none, or the mapping cannot tell what becomes of it. -/
def ObjectDefect.OfObject : ObjectDefect → Prop
  | .rejected rejection => rejection.kind.code = 201 ∨ rejection.kind.code = 205
  | .mapping (.subtypePropertyMissing _ _) => True
  | .mapping (.subtypeUndefined _ _ _ _) => True
  | .mapping (.extensionConflict _ _ _ _) => True
  | .mapping _ => False

namespace Mapping

variable {o : ObjectMapping} {stixId stixType : String} {properties : Members}
  {extensions : Option Members} {defect : MappingDefect}

/-- An extension that is relevant is predefined for the type of the object. -/
theorem relevantExtension_ok {name : String}
    (h : m.relevantExtension stixId stixType extensions = .ok (some name)) :
    ∃ o, m.objects.get? stixType = some o ∧ o.extensions.contains name = true := by
  unfold relevantExtension at h
  split at h
  · next o extensions hobject =>
    split at h
    · cases h
    · next found hfound =>
      obtain rfl := Option.some.inj (Except.ok.inj h)
      have hmem := hfound ▸ List.mem_singleton_self found
      exact ⟨o, hobject, (List.mem_filter.mp hmem).2⟩
    · cases h
  · cases h

/-- There is a relevant extension or none, unless two that are predefined are in conflict. -/
theorem relevantExtension_error
    (h : m.relevantExtension stixId stixType extensions = .error defect) :
    ∃ first second, defect = .extensionConflict stixId stixType first second := by
  unfold relevantExtension at h
  split at h
  · split at h
    · cases h
    · cases h
    · next first second _ _ =>
      obtain rfl := Except.error.inj h
      exact ⟨first, second, rfl⟩
  · cases h

/-- Choosing among subtypes fails for reasons that objects of any class have. -/
theorem selectedType_error (h : selectedType o stixId stixType properties = .error defect) :
    ObjectDefect.OfObject (.mapping defect) := by
  unfold selectedType at h
  split at h
  · cases h
  · split at h
    · obtain rfl := Except.error.inj h
      trivial
    · simp only at h
      split at h
      · obtain rfl := Except.error.inj h
        trivial
      · cases h

/-- A type that is mapped has a type in the target schema. -/
theorem targetType?_ne_none (ho : m.objects.get? stixType = some o) :
    m.targetType? stixId stixType properties extensions ≠ .ok none := by
  intro h
  unfold targetType? at h
  simp only [ho, except_bind_eq_ok] at h
  obtain ⟨_, -, _, -, h⟩ := h
  cases h

/-- If that cannot be chosen, the reason is one that objects of any class have. -/
theorem targetType?_error
    (h : m.targetType? stixId stixType properties extensions = .error defect) :
    ObjectDefect.OfObject (.mapping defect) := by
  unfold targetType? at h
  split at h
  · cases h
  · rcases except_bind_eq_error.mp h with h | ⟨selected, -, h⟩
    · exact selectedType_error h
    rcases except_bind_eq_error.mp h with h | ⟨relevant, -, h⟩
    · obtain ⟨first, second, rfl⟩ := relevantExtension_error h
      trivial
    · cases h

/-- Questions about the properties of a type that is mapped are answered. -/
theorem attribute?_isOk (ho : m.objects.get? stixType = some o) (property : String) :
    ∃ info, m.attribute? stixType property = .ok info := by
  unfold attribute?
  cases m.common.get? property with
  | some info => exact ⟨_, rfl⟩
  | none => exact ⟨o.attributes.get? property, by simp [object, found, ho]⟩

/-- So are questions about the properties in an extension that is predefined for it. -/
theorem extensionAttribute?_isOk {extension : String} (ho : m.objects.get? stixType = some o)
    (hextension : o.extensions.contains extension = true) (property : String) :
    ∃ info, m.extensionAttribute? stixType extension property = .ok info := by
  obtain ⟨e, he⟩ := Option.isSome_iff_exists.mp hextension
  refine ⟨e.attributes.get? property, ?_⟩
  rw [extensionAttribute?, object, ho, found, Option.elim_some]
  change (found (o.extensions.get? extension) _ >>= _) = _
  rw [he]
  rfl

/-- The properties that name its role players are those that the mapping lists, in order. -/
theorem roleplayerProperties_of_object (ho : m.objects.get? stixType = some o) :
    m.roleplayerProperties stixType = .ok (Text.sorted o.roleplayers) := by
  simp [roleplayerProperties, object, found, ho]

end Mapping

theorem Text.mem_sorted {names : List String} {name : String} :
    name ∈ Text.sorted names ↔ name ∈ names := by
  rw [Text.sorted, List.mem_mergeSort]

/-! ## Objects -/

/-- The value is the identifier, or a list that holds it. -/
def Json.Names (id : String) (raw : Json) : Prop :=
  raw = .string id ∨ ∃ items, raw = .array items ∧ .string id ∈ items

/-- Failures that an object of a relationship class can have besides, because of the properties
that name its role players. The mapping is at fault if the type that an identifier begins with is
not mapped. -/
def Mapping.FailsPlayers (m : Mapping) (object : Members) : ObjectDefect → Prop
  | .rejected rejection => rejection.kind.code = 202 ∨ rejection.kind.code = 204
  | .mapping (.missing (.object playerType)) =>
    m.objects.get? playerType = none ∧
      ∃ o property raw id, (object.text? "type").bind m.objects.get? = some o ∧
        property ∈ o.roleplayers ∧ object.get? property = some raw ∧ raw.Names id ∧
        Stix.typeOfId? id = some playerType
  | .mapping _ => False

/-- A draft with a main thing can be put in order. -/
theorem Draft.order_of_main {d : Draft} (h : d.main.isSome = true) :
    ∃ statements, d.order = .ok statements := by
  obtain ⟨main, hmain⟩ := Option.isSome_iff_exists.mp h
  rw [order_eq, hmain]
  cases main <;> exact ⟨_, rfl⟩

namespace Subject

/-- Why the conversion of an object can fail under a consistent mapping. -/
inductive Fails (s : Subject) : ObjectDefect → Prop where
  /-- for a reason that objects of any class can have -/
  | object {defect : ObjectDefect} : defect.OfObject → Fails s defect
  /-- for a reason that only relationships have -/
  | players {defect : ObjectDefect} : s.mapping.classOf? s.stixType = some .relationship →
    s.mapping.FailsPlayers s.object defect → Fails s defect
  /-- because a property failed, if the conversion is strict -/
  | property {label : String} {info : AttributeInfo} {raw : Json} {defect : PropertyDefect} :
    s.strict = true → s.mapping.FailsAt ⟨info.name, info.valueType, raw⟩ defect →
    s.mapping.HasAttribute info → Fails s (.ofProperty label s.stixId defect)

variable {s : Subject} {o : ObjectMapping}

/-- A rejection is one of the failures that objects can have if its reason is. -/
theorem reject_fails {α : Type} {kind : RejectionKind} {detail : String}
    (h : s.Fails (s.rejection kind detail)) :
    (s.reject kind detail : Naming ObjectDefect α).FailsBy s.Fails :=
  .throw h

theorem ask_fails {α : Type} {answer : Except MappingDefect α}
    (h : ∀ defect, answer = .error defect → s.Fails (.mapping defect)) :
    (ask answer).FailsBy s.Fails := by
  refine .ofExcept fun defect hdefect => ?_
  obtain ⟨defect, hanswer, rfl⟩ := mapError_eq_error.mp hdefect
  exact h defect hanswer

/-- The answer to a question draws on no variables. -/
theorem ask_eq_ok {α : Type} {answer : Except MappingDefect α} {a : α} {v w : Variables}
    (h : (ask answer).outcome v = (.ok a, w)) : answer = .ok a :=
  mapError_eq_ok.mp (ofExcept_eq_ok.mp h).1

/-- Where the mapping has an answer, asking does not fail. -/
theorem ask_answered {α : Type} {answer : Except MappingDefect α} (h : ∃ a, answer = .ok a) :
    (ask answer).FailsBy s.Fails := by
  obtain ⟨a, rfl⟩ := h
  refine ask_fails fun defect hdefect => ?_
  cases hdefect

/-! ### Properties -/

/-- A property by an entry of the mapping fails only where its value does. -/
theorem property_fails (self : Reference) (label : String) {info : Option AttributeInfo}
    (hinfo : ∀ i ∈ info, s.mapping.HasAttribute i) (raw : Json) :
    (s.property self label info raw).FailsBy s.Fails := by
  cases info with
  | none => exact .pure _
  | some info =>
    refine .bind (.attempt _) fun result v w hresult => ?_
    cases result with
    | ok converted => exact .pure _
    | error defect =>
      have hvalue : ((convertValue s.mapping ⟨self, info.name⟩ info.valueType raw).outcome v).1 =
          .error defect := Except.ok.inj (congrArg Prod.fst hresult)
      by_cases hstrict : s.strict = true
      · simp only [if_pos hstrict]
        have hfails := convertValue_failsAt _ _ _ v defect hvalue
        exact .throw (.property hstrict hfails (hinfo info rfl))
      · simp only [if_neg hstrict]
        exact .pure _

/-- Properties fail only where the value of one of them does, as each of them has an answer. -/
theorem propertiesBy_fails (self : Reference)
    {entry : String → Except MappingDefect (Option AttributeInfo)} (label : String → String)
    (hentry : ∀ name, ∃ info, entry name = .ok info)
    (hinfo : ∀ name info, entry name = .ok (some info) → s.mapping.HasAttribute info)
    (members : Members) : (s.propertiesBy self entry label members).FailsBy s.Fails := by
  induction members with
  | nil => exact .pure _
  | cons member rest ih =>
    obtain ⟨name, raw⟩ := member
    refine .bind (ask_answered (hentry name)) fun info _ _ hanswer => ?_
    have hinfo : ∀ i ∈ info, s.mapping.HasAttribute i := by
      rintro i rfl
      exact hinfo name i (ask_eq_ok hanswer)
    refine .bind (property_fails self _ hinfo raw) fun first _ _ _ => ?_
    exact .bind ih fun _ _ _ _ => .pure _

/-- All properties of an object whose type is mapped fail only where a value does. -/
theorem properties_fails (ho : s.mapping.objects.get? s.stixType = some o) (self : Reference)
    (roleplayers : List String) (extensions : Option Members) :
    (s.properties self roleplayers extensions).FailsBy s.Fails := by
  simp only [properties, ownProperties_eq, extensionProperties_eq]
  refine .bind (propertiesBy_fails self _ (Mapping.attribute?_isOk ho)
    (fun _ _ h => .of_attribute? h) _) fun own _ _ _ => ?_
  refine .bind (ask_fails fun defect h => ?_) fun relevant v w hrelevant => ?_
  · obtain ⟨first, second, rfl⟩ := Mapping.relevantExtension_error h
    exact .object trivial
  cases relevant with
  | none => exact .pure _
  | some name =>
    obtain ⟨other, hother, hname⟩ := Mapping.relevantExtension_ok (ask_eq_ok hrelevant)
    obtain rfl := Option.some.inj (ho.symm.trans hother)
    have hentry := Mapping.extensionAttribute?_isOk ho hname
    dsimp only
    split
    · exact reject_fails (.object (.inr rfl))
    · next members _ =>
      exact .bind (propertiesBy_fails self _ hentry (fun _ _ h => .of_extensionAttribute? h)
        members) fun _ _ _ _ => .pure _

/-! ### Role players -/

/-- Texts that are taken out of a list are in it. -/
theorem mem_of_allTexts? {items : List Json} {ids : List String} (h : allTexts? items = some ids)
    {id : String} (hid : id ∈ ids) : .string id ∈ items := by
  induction items generalizing ids with
  | nil =>
    obtain rfl := Option.some.inj h
    exact absurd hid List.not_mem_nil
  | cons item rest ih =>
    obtain ⟨text, htext, h⟩ := Option.bind_eq_some_iff.mp h
    obtain ⟨texts, htexts, h⟩ := Option.bind_eq_some_iff.mp h
    obtain rfl := Option.some.inj h
    rcases List.mem_cons.mp hid with rfl | hid
    · cases item with
      | string text =>
        obtain rfl := Option.some.inj htext
        exact List.mem_cons_self
      | _ => cases htext
    · exact List.mem_cons_of_mem _ (ih htexts hid)

section Players

variable (hclass : s.mapping.classOf? s.stixType = some .relationship)
include hclass

/-- Role players that are not named by identifiers are a failure that relationships can have. -/
theorem roleplayerIds_fails (property : String) (raw : Json) :
    (s.roleplayerIds property raw).FailsBy s.Fails := by
  have hspecified : ∀ ids : List String, (do
      if ids.isEmpty || ids.any String.isEmpty then s.reject .unspecifiedProperty property
      return ids : Naming ObjectDefect (List String)).FailsBy s.Fails := by
    intro ids
    split
    · exact .bind (reject_fails (.players hclass (.inl rfl))) fun _ _ _ _ => .pure _
    · exact .pure _
  cases raw with
  | string id => exact hspecified [id]
  | array items =>
    rw [roleplayerIds]
    cases allTexts? items with
    | none =>
      exact .bind (reject_fails (.players hclass (.inr rfl))) fun ids _ _ _ => hspecified ids
    | some ids => exact hspecified ids
  | _ => exact .bind (reject_fails (.object (.inr rfl))) fun ids _ _ _ => hspecified ids

/-- Role players are matched unless the type of one of them is not mapped. -/
theorem matchIds_fails {property : String} {ids : List String}
    (hplayers : ∀ id ∈ ids, ∀ playerType, Stix.typeOfId? id = some playerType →
      s.mapping.objects.get? playerType = none →
      s.mapping.FailsPlayers s.object (.mapping (.missing (.object playerType)))) :
    (s.matchIds property ids).FailsBy s.Fails := by
  induction ids with
  | nil => exact .pure _
  | cons id rest ih =>
    rw [matchIds]
    split
    · exact reject_fails (.players hclass (.inr rfl))
    · next playerType htype =>
      refine .bind (ask_fails fun defect h => ?_) fun supertype _ _ _ => ?_
      · obtain ⟨hnone, rfl⟩ := Mapping.supertype_eq_error.mp h
        exact .players hclass (hplayers id List.mem_cons_self playerType htype hnone)
      refine .bind (.mapError fun _ _ _ => .players hclass (.inr rfl)) fun first _ _ _ => ?_
      have hrest := ih fun id hid => hplayers id (List.mem_cons_of_mem _ hid)
      exact .bind hrest fun _ _ _ _ => .pure _

/-- Role players are cast unless one is not named by an identifier, or its type is not mapped. -/
theorem players_fails (ho : s.mapping.objects.get? s.stixType = some o)
    (htype : s.object.text? "type" = some s.stixType) {typeName : String}
    (hroles : ∀ property ∈ o.roleplayers, ∃ role, s.mapping.role? typeName property = some role)
    {properties : List String} (hproperties : ∀ property ∈ properties, property ∈ o.roleplayers) :
    (s.players typeName properties).FailsBy s.Fails := by
  induction properties with
  | nil => exact .pure _
  | cons property rest ih =>
    have hproperty := hproperties property List.mem_cons_self
    have hrest := ih fun other hother => hproperties other (List.mem_cons_of_mem _ hother)
    simp only [players]
    cases hraw : s.object.get? property with
    | none => exact .bind (.pure _) fun _ _ _ _ => .bind hrest fun _ _ _ _ => .pure _
    | some raw =>
      refine .bind (roleplayerIds_fails hclass property raw) fun ids v w hids => ?_
      obtain ⟨role, hrole⟩ := hroles property hproperty
      have hanswer : s.mapping.role typeName property = .ok role := Mapping.found_eq_ok.mpr hrole
      refine .bind (ask_answered ⟨role, hanswer⟩) fun _ _ _ _ => ?_
      -- an identifier that cannot be matched stands in the property, alone or in a list
      have hmatched : (s.matchIds property ids).FailsBy s.Fails := by
        refine matchIds_fails hclass fun id hid playerType hplayer hnone => ⟨hnone, ?_⟩
        have hobject : (s.object.text? "type").bind s.mapping.objects.get? = some o := by
          rw [htype]
          exact ho
        refine ⟨o, property, raw, id, hobject, hproperty, hraw, ?_, hplayer⟩
        rcases (roleplayerIds_ok hids).1 with ⟨only, rfl, rfl⟩ | ⟨items, rfl, htexts⟩
        · obtain rfl := List.mem_singleton.mp hid
          exact .inl rfl
        · exact .inr ⟨items, rfl, mem_of_allTexts? htexts hid⟩
      refine .bind hmatched fun entities _ _ _ => .bind (.pure _) fun first _ _ _ => ?_
      exact .bind hrest fun _ _ _ _ => .pure _

end Players

/-! ### The main thing -/

/-- Drafting an entity fails only where a property does. -/
theorem entityDraft_fails (ho : s.mapping.objects.get? s.stixType = some o) (typeName : String)
    (extensions : Option Members) : (s.entityDraft typeName extensions).FailsBy s.Fails := by
  refine .bind .fresh fun var _ _ _ => ?_
  exact .bind (properties_fails ho _ [] extensions) fun _ _ _ _ => .pure _

/-- Drafting a relation fails where a role player or a property does, or where there are no players.
-/
theorem relationDraft_fails (hm : s.mapping.Consistent)
    (hclass : s.mapping.classOf? s.stixType = some .relationship)
    (ho : s.mapping.objects.get? s.stixType = some o)
    (htype : s.object.text? "type" = some s.stixType) {typeName : String}
    (hrelation : typeName ∈ o.relationTypes) (extensions : Option Members) :
    (s.relationDraft typeName extensions).FailsBy s.Fails := by
  have hproperties := Mapping.roleplayerProperties_of_object ho
  refine .bind .fresh fun var _ _ _ => ?_
  refine .bind (ask_answered ⟨_, hproperties⟩) fun roleplayers _ _ hroleplayers => ?_
  obtain rfl := Except.ok.inj (hproperties.symm.trans (ask_eq_ok hroleplayers))
  have hplayers : (s.players typeName (Text.sorted o.roleplayers)).FailsBy s.Fails :=
    players_fails hclass ho htype (fun _ hproperty => hm.roles hclass ho hrelation hproperty)
      fun _ hproperty => Text.mem_sorted.mp hproperty
  refine .bind hplayers fun players _ _ _ => ?_
  dsimp only
  split
  · exact .bind (reject_fails (.players hclass (.inl rfl))) fun _ _ _ _ =>
      .bind (properties_fails ho _ _ extensions) fun _ _ _ _ => .pure _
  · exact .bind (properties_fails ho _ _ extensions) fun _ _ _ _ => .pure _

/-- Extensions that are not an object of objects are a failure that objects of any class can have.
-/
theorem extensions_error {defect : ObjectDefect} (h : s.extensions = .error defect) :
    defect.OfObject := by
  unfold extensions at h
  split at h
  · cases h
  · cases h
  · obtain rfl := Except.error.inj h
    exact .inr rfl

/-- An object with a class is drafted, or fails for a reason that objects of its class can have. -/
theorem draft_fails (hm : s.mapping.Consistent) {objectClass : ObjectClass}
    (hclass : s.mapping.classOf? s.stixType = some objectClass)
    (htype : s.object.text? "type" = some s.stixType) :
    (s.draft objectClass).FailsBy s.Fails := by
  obtain ⟨o, ho⟩ := hm.mapped hclass
  refine .bind (.ofExcept fun defect h => .object (extensions_error h)) fun extensions _ _ _ => ?_
  refine .bind (ask_fails fun defect h => .object (Mapping.targetType?_error h))
    fun target _ _ htarget => ?_
  cases target with
  | none => exact absurd (ask_eq_ok htarget) (Mapping.targetType?_ne_none ho)
  | some typeName =>
    have hrelation := Mapping.mem_relationTypes_of_targetType? ho (ask_eq_ok htarget)
    dsimp only
    split
    · next hrelationship =>
      exact relationDraft_fails hm (hrelationship ▸ hclass) ho htype hrelation extensions
    · exact entityDraft_fails ho typeName extensions

/-- What is drafted for an object has its main thing. -/
theorem draft_main {objectClass : ObjectClass} {drafted : Draft × List Skipped} {v w : Variables}
    (h : (s.draft objectClass).outcome v = (.ok drafted, w)) : drafted.1.main.isSome = true := by
  obtain ⟨extensions, typeName, -, -, h⟩ := draft_eq_ok.mp h
  split at h
  · obtain ⟨_, _, _, _, -, -, -, -, rfl⟩ := relationDraft_eq_ok.mp h
    rfl
  · obtain ⟨_, -, rfl⟩ := entityDraft_eq_ok.mp h
    rfl

/-- The same holds of its conversion: a draft has a main thing, so that it can be put in order. -/
theorem conversion_fails (hm : s.mapping.Consistent) {objectClass : ObjectClass}
    (hclass : s.mapping.classOf? s.stixType = some objectClass)
    (htype : s.object.text? "type" = some s.stixType) :
    (s.conversion objectClass).FailsBy s.Fails := by
  refine .bind (draft_fails hm hclass htype) fun drafted _ _ hdrafted => ?_
  obtain ⟨draft, skipped⟩ := drafted
  refine .bind (.ofExcept fun defect h => ?_) fun _ _ _ _ => .pure _
  obtain ⟨statements, horder⟩ := Draft.order_of_main (draft_main hdrafted)
  rw [horder] at h
  cases h

/-- An object that is identified is converted, or fails for such a reason. -/
theorem convert_fails (hm : s.mapping.Consistent)
    (htype : s.object.text? "type" = some s.stixType) {defect : ObjectDefect}
    (h : s.convert = .error defect) : s.Fails defect := by
  cases hclass : s.mapping.classOf? s.stixType with
  | none =>
    rw [convert] at h
    rw [hclass] at h
    cases h
  | some objectClass =>
    rw [s.convert_eq_conversion hclass] at h
    exact conversion_fails hm hclass htype {} defect h

/-- What is required is a text with characters. -/
theorem requiredText_eq_ok_iff {object : Members} {name text : String} {stixId : Option String} :
    requiredText object name stixId = .ok text ↔ object.text? name = some text ∧ text ≠ "" := by
  unfold requiredText Members.text?
  split
  · next hnone => simp [hnone]
  · next found hfound =>
    simp only [hfound, Option.bind_some, Json.text?, Option.some.injEq]
    by_cases hempty : found = ""
    · simp [hempty]
    · simp only [String.isEmpty_iff, hempty, if_false, Except.ok.injEq]
      exact ⟨fun h => ⟨h, h ▸ hempty⟩, fun h => h.1⟩
  · next raw hnot hraw =>
    cases raw with
    | string text => exact absurd rfl (hnot text)
    | _ => simp [hraw, Json.text?]

/-- A text that is required is there if it is found. -/
theorem requiredText_eq_ok {object : Members} {name : String} {stixId : Option String}
    {text : String} (h : requiredText object name stixId = .ok text) :
    object.text? name = some text :=
  (requiredText_eq_ok_iff.mp h).1

/-- A text that is required is missing, or is no text. -/
theorem requiredText_eq_error {object : Members} {name : String} {stixId : Option String}
    {rejection : Rejection} (h : requiredText object name stixId = .error rejection) :
    rejection.kind.code = 201 ∨ rejection.kind.code = 205 := by
  unfold requiredText at h
  split at h
  · obtain rfl := Except.error.inj h
    exact .inl rfl
  · split at h
    · obtain rfl := Except.error.inj h
      exact .inl rfl
    · cases h
  · obtain rfl := Except.error.inj h
    exact .inr rfl

/-- An object that cannot be identified fails for a reason that objects of any class can have. -/
theorem identify_error {strict : Bool} {object : Members} {rejection : Rejection}
    (h : identify m strict object = .error rejection) :
    ObjectDefect.OfObject (.rejected rejection) := by
  rcases except_bind_eq_error.mp h with h | ⟨stixId, -, h⟩
  · exact requiredText_eq_error h
  rcases except_bind_eq_error.mp h with h | ⟨stixType, -, h⟩
  · exact requiredText_eq_error h
  · cases h

end Subject

/-- An object fails because it cannot be identified, or because its conversion fails. -/
theorem convertObject_error {strict : Bool} {object : Members} {defect : ObjectDefect}
    (h : convertObject m strict object = .error defect) :
    (∃ rejection, Subject.identify m strict object = .error rejection ∧
      defect = .rejected rejection) ∨
    ∃ s, Subject.identify m strict object = .ok s ∧ s.convert = .error defect := by
  rcases except_bind_eq_error.mp h with h | ⟨s, hs, h⟩
  · obtain ⟨rejection, hrejected, rfl⟩ := mapError_eq_error.mp h
    exact .inl ⟨rejection, hrejected, rfl⟩
  · exact .inr ⟨s, mapError_eq_ok.mp hs, h⟩

/-! ## Mappings that were accepted -/

/-- Failures that a consistent mapping rules out: that the object is of an unsupported type or its
statements have no order, that a type with a class is not mapped, that a predefined extension is
not defined, and that a role player has no role. -/
def Mapping.RulesOut (m : Mapping) : ObjectDefect → Prop
  | .rejected rejection => rejection.kind.code = 203 ∨ rejection.kind.code = 206
  | .mapping (.missing (.object stixType)) => (m.classOf? stixType).isSome = true
  | .mapping (.missing (.extension _ _)) => True
  | .mapping (.missing (.role _ _)) => True
  | .mapping _ => False

/-- The reasons that objects of any class can have do not speak against the mapping. -/
theorem ObjectDefect.OfObject.not_rulesOut {defect : ObjectDefect}
    (h : defect.OfObject) : ¬ m.RulesOut defect := by
  intro hruled
  cases defect with
  | rejected rejection =>
    have hcode : rejection.kind.code = 201 ∨ rejection.kind.code = 205 := h
    have hother : rejection.kind.code = 203 ∨ rejection.kind.code = 206 := hruled
    omega
  | mapping defect =>
    cases defect with
    | missing what => exact h
    | _ => exact hruled

namespace Mapping.Consistent

variable (hm : m.Consistent)
include hm

/-- Nor does a reference to an object of a type that is not mapped. -/
theorem not_rulesOut_of_unmapped {stixType : String} (h : m.objects.get? stixType = none) :
    ¬ m.RulesOut (.mapping (.missing (.object stixType))) := by
  intro hclassed
  obtain ⟨objectClass, hclass⟩ := Option.isSome_iff_exists.mp hclassed
  obtain ⟨o, ho⟩ := hm.mapped hclass
  cases h.symm.trans ho

theorem not_rulesOut_of_failsPlayers {object : Members} {defect : ObjectDefect}
    (h : m.FailsPlayers object defect) : ¬ m.RulesOut defect := by
  intro hruled
  cases defect with
  | rejected rejection =>
    have hcode : rejection.kind.code = 202 ∨ rejection.kind.code = 204 := h
    have hother : rejection.kind.code = 203 ∨ rejection.kind.code = 206 := hruled
    omega
  | mapping defect =>
    cases defect with
    | missing what =>
      cases what with
      | object stixType => exact hm.not_rulesOut_of_unmapped h.1 hruled
      | _ => exact h
    | _ => exact hruled

/-- Nor does a value that cannot be converted, as all that entries refer to is there. -/
theorem not_rulesOut_of_failsValue {label stixId : String} {p : Part} {defect : PropertyDefect}
    (h : m.FailsAt p defect) : ¬ m.RulesOut (.ofProperty label stixId defect) := by
  intro hruled
  have hvalue := h.failsValue
  cases defect with
  | value defect => simp [ObjectDefect.ofProperty, RulesOut, RejectionKind.code] at hruled
  | mapping defect =>
    cases defect with
    | missing what =>
      cases what with
      | object stixType => exact hm.not_rulesOut_of_unmapped hvalue hruled
      | extension | role => exact hvalue
      | _ => exact hruled
    | _ => exact hruled

end Mapping.Consistent

/-- **What a mapping that was accepted leaves to fail.** Under a mapping that was assembled from any
documents, a conversion, strict or lenient, fails for no reason that a consistent mapping rules out.
A lenient one fails only for reasons that objects of any class have, or, if the object is of a
relationship class, because of its role players. -/
theorem convertObject_fails {sources : Sources} (hm : Mapping.assemble sources = .ok m)
    {strict : Bool} {object : Members} {defect : ObjectDefect}
    (h : convertObject m strict object = .error defect) :
    ¬ m.RulesOut defect ∧
      (strict = false → defect.OfObject ∨
        (object.text? "type").bind m.classOf? = some .relationship ∧
          m.FailsPlayers object defect) := by
  have hconsistent := Mapping.consistent_of_assemble hm
  rcases convertObject_error h with ⟨rejection, hrejected, rfl⟩ | ⟨s, hs, hconvert⟩
  · have hobject := Subject.identify_error hrejected
    exact ⟨hobject.not_rulesOut, fun _ => .inl hobject⟩
  obtain ⟨stixId, stixType, -, htype, rfl⟩ := Subject.identify_eq_ok.mp hs
  have htext := Subject.requiredText_eq_ok htype
  cases Subject.convert_fails hconsistent htext hconvert with
  | object hobject => exact ⟨hobject.not_rulesOut, fun _ => .inl hobject⟩
  | players hclass hplayers =>
    refine ⟨hconsistent.not_rulesOut_of_failsPlayers hplayers, fun _ => .inr ⟨?_, hplayers⟩⟩
    rw [htext]
    exact hclass
  | property hstrict hvalue =>
    refine ⟨hconsistent.not_rulesOut_of_failsValue hvalue, fun hlenient => ?_⟩
    cases hlenient.symm.trans hstrict

/-- The documents of a small mapping: sightings of tools. -/
def sightingDocuments : Documents where
  classes := { domain := ["tool"], relationship := ["sighting"] }
  domainObjects := [("tool", { typeName := "tool" })]
  relationshipObjects :=
    [("sighting",
      { typeName := "sighting"
        attributes := [("seen_refs", { name := "seen", valueType := .roleplayer })] })]
  relationRoles := [("sighting", [("seen_refs", "seen")])]
  dictionary := ⟨"key", "property", ⟨"entry", "holder", "held"⟩, []⟩

/-- A sighting of a tool and of something that is not mapped. -/
def ghostSighting : Members :=
  [("id", .string "sighting--1"), ("type", .string "sighting"),
    ("seen_refs", .array [.string "tool--1", .string "ghost--1"])]

/-- The sighting fails, also in a lenient conversion, and its role players are the reason. -/
theorem convertObject_fails_sighting :
    let m := sightingDocuments.mapping
    let unmapped : ObjectDefect := .mapping (.missing (.object "ghost"))
    Mapping.ofDocuments sightingDocuments = .ok m ∧
      convertObject m false ghostSighting = .error unmapped ∧ ¬ m.RulesOut unmapped ∧
      m.FailsPlayers ghostSighting unmapped := by
  intro m unmapped
  have hm : Mapping.ofDocuments sightingDocuments = .ok m := rfl
  have hfails : convertObject sightingDocuments.mapping false ghostSighting =
      .error (.mapping (.missing (.object "ghost"))) := by cbv
  obtain ⟨hruled, hlenient⟩ := convertObject_fails hm hfails
  rcases hlenient rfl with hobject | ⟨-, hplayers⟩
  · exact hobject.elim
  · exact ⟨hm, hfails, hruled, hplayers⟩

end ThreatGraph
