import ThreatGraph.Conversion.Object
import ThreatGraph.Proofs.Edits
import ThreatGraph.Proofs.Naming

/-!
# Conversions that succeed

What a conversion of a value consists of if it succeeds: the answers of the mapping, the
conversions of the parts, and the supplies between them. There is one lemma for each way in which
a value is converted, so whatever holds of successful conversions is shown from these lemmas and
does not look into the conversion again.

Lemmas are implications where only the way forward is needed, and equivalences for what is also
built again, as the properties of an object (`properties_eq_ok`) and its draft (`draft_eq_ok`).
-/

namespace ThreatGraph

open Naming

/-- A failure that is reported differently is no success. -/
theorem mapError_eq_ok {ε ε' α : Type} {f : ε → ε'} {result : Except ε α} {a : α} :
    result.mapError f = .ok a ↔ result = .ok a := by
  cases result <;> simp [Except.mapError]

/-- A failure that is reported differently was a failure before. -/
theorem mapError_eq_error {ε ε' α : Type} {f : ε → ε'} {result : Except ε α} {e' : ε'} :
    result.mapError f = .error e' ↔ ∃ e, result = .error e ∧ f e = e' := by
  cases result <;> simp [Except.mapError]

theorem Mapping.found_eq_ok {α : Type} {entry : Option α} {what : Missing} {a : α} :
    found entry what = .ok a ↔ entry = some a := by
  cases entry <;> simp [found]

/-- What is not found is reported as missing. -/
theorem Mapping.found_eq_error {α : Type} {entry : Option α} {what : Missing}
    {defect : MappingDefect} :
    found entry what = .error defect ↔ entry = none ∧ defect = .missing what := by
  cases entry <;> simp [found, eq_comm]

variable {m : Mapping} {owner : Owner} {v w : Variables}

/-! ## References and links -/

/-- The entity that matches the object of a type and an identifier, under the variable `n`. -/
def Entity.matching (n : Nat) (typeName stixId : String) : Entity :=
  Entity.addAttribute { var := Variables.nameOf n, typeName } idAttribute (quote stixId)

namespace Reference

variable {r : Reference} {stixId var typeName : Option String} {x : String}

/-- The identifier of a reference is given exactly if it is known. -/
theorem requireId_eq_ok : r.requireId = .ok x ↔ r.stixId = some x := by
  rw [requireId]
  cases r.stixId <;> simp

theorem requireVar_eq_ok : r.requireVar = .ok x ↔ r.var = some x := by
  rw [requireVar]
  cases r.var <;> simp

theorem requireType_eq_ok : r.requireType = .ok x ↔ r.typeName = some x := by
  rw [requireType]
  cases r.typeName <;> simp

theorem known_var_eq_some (h : (known stixId var typeName).var = some x) : var = some x :=
  (Option.filter_eq_some_iff.mp h).1

theorem known_stixId_eq_some (h : (known stixId var typeName).stixId = some x) :
    stixId = some x :=
  (Option.filter_eq_some_iff.mp h).1

theorem known_typeName_eq_some (h : (known stixId var typeName).typeName = some x) :
    typeName = some x :=
  (Option.filter_eq_some_iff.mp h).1

/-- The name of a variable is not empty, and therefore known if it is given. -/
theorem known_nameOf (n : Nat) :
    (known stixId (some (Variables.nameOf n)) typeName).var = some (Variables.nameOf n) := by
  simp [known, Variables.nameOf_ne_empty]

/-- An object is matched by the type and the identifier of its reference, and takes one variable. -/
theorem matchEntity_ok {e : Entity} (h : r.matchEntity.outcome v = (.ok e, w)) :
    ∃ typeName stixId, r.typeName = some typeName ∧ r.stixId = some stixId ∧
      e = .matching v.issued typeName stixId ∧ w = ⟨v.issued + 1⟩ := by
  simp only [matchEntity, bind_eq_ok, ofExcept_eq_ok, fresh_eq_ok, pure_eq_ok] at h
  obtain ⟨typeName, _, ⟨htype, rfl⟩, stixId, _, ⟨hid, rfl⟩, _, _, ⟨rfl, rfl⟩, rfl, rfl⟩ := h
  exact ⟨typeName, stixId, requireType_eq_ok.mp htype, requireId_eq_ok.mp hid, rfl, rfl⟩

end Reference

/-- A link takes three variables: one for its target, one for its owner and one for itself. -/
theorem convertLink_ok {typeName id targetType : String} {a : Attachments}
    (h : (convertLink m owner typeName id targetType).outcome v = (.ok a, w)) :
    ∃ ownerRole targetRole supertype ownerType ownerId,
      Stix.rolePair? owner.attributeName = some (ownerRole, targetRole) ∧
      m.supertype targetType = .ok supertype ∧
      owner.reference.typeName = some ownerType ∧ owner.reference.stixId = some ownerId ∧
      a = .link (.matching (v.issued + 1) ownerType ownerId) (.matching v.issued supertype id)
        (HelperRelation.tie ⟨typeName, ownerRole, targetRole⟩ (Variables.nameOf (v.issued + 2))
          (Variables.nameOf (v.issued + 1)) (Variables.nameOf v.issued)) ∧
      w = ⟨v.issued + 3⟩ := by
  simp only [convertLink, ofMapping, matched, bind_eq_ok, ofExcept_eq_ok, mapError_eq_ok,
    Naming.mapError_eq_ok, fresh_eq_ok, pure_eq_ok] at h
  obtain ⟨⟨ownerRole, targetRole⟩, _, ⟨hroles, rfl⟩, supertype, _, ⟨hsuper, rfl⟩, target, _,
    htarget, ownerEntity, _, howner, _, _, ⟨rfl, rfl⟩, rfl, rfl⟩ := h
  obtain ⟨targetName, targetId, hname, hid, rfl, rfl⟩ := Reference.matchEntity_ok htarget
  obtain ⟨ownerType, ownerId, htype, hownerId, rfl, rfl⟩ := Reference.matchEntity_ok howner
  obtain rfl := Option.some.inj (Reference.known_typeName_eq_some hname)
  obtain rfl := Option.some.inj (Reference.known_stixId_eq_some hid)
  exact ⟨ownerRole, targetRole, _, ownerType, ownerId, Mapping.found_eq_ok.mp hroles, hsuper, htype,
    hownerId, rfl, rfl⟩

/-! ## Parts of maps -/

/-- The entity of a key has the type that the schema lists for it, or is a custom one that keeps it.
-/
theorem keyEntity_ok {schema key : String} {k : KeyValueMapping} {e : Entity}
    (h : (keyEntity schema k key).outcome v = (.ok e, w)) :
    ((∃ typeName, k.keys.get? key = some typeName ∧
        e = { var := Variables.nameOf v.issued, typeName }) ∨
      ∃ custom, k.keys.get? key = none ∧ k.custom = some custom ∧
        e = Entity.addAttribute { var := Variables.nameOf v.issued, typeName := custom.entityType }
          custom.nameAttribute (quote key)) ∧
      w = ⟨v.issued + 1⟩ := by
  rw [keyEntity] at h
  cases hkey : k.keys.get? key with
  | none =>
    cases hcustom : k.custom with
    | none => simp [hkey, hcustom, ofMapping, Except.mapError] at h
    | some custom =>
      simp only [hkey, hcustom, bind_eq_ok, fresh_eq_ok, pure_eq_ok] at h
      obtain ⟨_, _, ⟨rfl, rfl⟩, rfl, rfl⟩ := h
      exact ⟨.inr ⟨custom, rfl, rfl, rfl⟩, rfl⟩
  | some typeName =>
    simp only [hkey, bind_eq_ok, fresh_eq_ok, pure_eq_ok] at h
    obtain ⟨_, _, ⟨rfl, rfl⟩, rfl, rfl⟩ := h
    exact ⟨.inl ⟨typeName, rfl, rfl⟩, rfl⟩

/-- A value is literals only if nothing is to be attached for it. -/
theorem onlyLiterals_eq_ok {type : ValueType} {c : Converted} {literals : List String} :
    onlyLiterals type c = .ok literals ↔ c.attachments = {} ∧ c.literals = literals := by
  obtain ⟨own, helpers, links⟩ := c
  simp only [onlyLiterals, Attachments.isEmpty, Bool.and_eq_true, List.isEmpty_iff,
    Attachments.mk.injEq]
  by_cases hempty : helpers = [] ∧ links = []
  · simp [hempty]
  · simp [hempty]

/-! ## Values by their type -/

variable {c : Converted}

theorem convertValue_scalar_ok {s : Scalar} {raw : Json}
    (h : (convertValue m owner (.scalar s) raw).outcome v = (.ok c, w)) :
    ∃ literal, Literal.read s raw = .ok literal ∧ c = { literals := [literal.text] } ∧ w = v := by
  simp only [convertValue, ofValue, bind_eq_ok, ofExcept_eq_ok, mapError_eq_ok, pure_eq_ok] at h
  obtain ⟨literal, _, ⟨hread, rfl⟩, rfl, rfl⟩ := h
  exact ⟨literal, hread, rfl, rfl⟩

/-- A list is converted item by item once all its items have the shape of its type. -/
theorem convertValue_list_ok {element : ValueType} {raw : Json}
    (h : (convertValue m owner (.list element) raw).outcome v = (.ok c, w)) :
    ∃ items, raw = .array items ∧ (ValueType.list element).check raw = .ok () ∧
      (convertItems m owner element items).outcome v = (.ok c, w) := by
  cases raw with
  | array items =>
    simp only [convertValue, ofValue, bind_eq_ok, ofExcept_eq_ok, mapError_eq_ok] at h
    obtain ⟨_, _, ⟨hcheck, rfl⟩, hitems⟩ := h
    exact ⟨items, rfl, hcheck, hitems⟩
  | _ => simp [convertValue, ofValue, Except.mapError] at h

/-- A reference is a text with the identifier of its target, to which a link is made. -/
theorem convertValue_relation_ok {typeName : String} {raw : Json}
    (h : (convertValue m owner (.relation typeName) raw).outcome v = (.ok c, w)) :
    ∃ id targetType a, raw = .string id ∧ Stix.typeOfId? id = some targetType ∧
      (convertLink m owner typeName id targetType).outcome v = (.ok a, w) ∧
      c = { attachments := a } := by
  cases raw with
  | string id =>
    simp only [convertValue] at h
    cases htype : Stix.typeOfId? id with
    | none => simp [htype, ofValue, Except.mapError] at h
    | some targetType =>
      simp only [htype, bind_eq_ok, pure_eq_ok] at h
      obtain ⟨a, _, hlink, rfl, rfl⟩ := h
      exact ⟨id, targetType, a, rfl, htype, hlink, rfl⟩
  | _ => simp [convertValue, ofValue, Except.mapError] at h

/-- A nested object becomes a helper with what its fields give, and a tie to its owner. -/
theorem convertValue_composite_ok {schema : String} {raw : Json}
    (h : (convertValue m owner (.composite schema) raw).outcome v = (.ok c, w)) :
    ∃ fields composite gathered ownerVar u, raw = .object fields ∧
      m.composite schema = .ok composite ∧
      (convertFields m schema
        (.known none (some (Variables.nameOf v.issued)) (some composite.typeName)) fields).outcome
          ⟨v.issued + 1⟩ = (.ok gathered, u) ∧
      owner.reference.var = some ownerVar ∧ w = ⟨u.issued + 1⟩ ∧
      c = ⟨[],
        .helper
          (gathered.attributes.foldl (fun e a => e.addAttributes a.1 a.2)
            { var := Variables.nameOf v.issued, typeName := composite.typeName })
          (composite.relation.tie (Variables.nameOf u.issued) ownerVar
            (Variables.nameOf v.issued)) ++
        gathered.attachments⟩ := by
  cases raw with
  | object fields =>
    simp only [convertValue, ofMapping, ofReference, bind_eq_ok, ofExcept_eq_ok, mapError_eq_ok,
      fresh_eq_ok, pure_eq_ok] at h
    obtain ⟨composite, _, ⟨hcomposite, rfl⟩, _, _, ⟨rfl, rfl⟩, gathered, u, hfields, ownerVar, _,
      ⟨hvar, rfl⟩, _, _, ⟨rfl, rfl⟩, rfl, rfl⟩ := h
    exact ⟨fields, composite, gathered, ownerVar, u, rfl, hcomposite, hfields,
      Reference.requireVar_eq_ok.mp hvar, rfl, rfl⟩
  | _ => simp [convertValue, ofValue, Except.mapError] at h

/-- An object of pairs is converted pair by pair. -/
theorem convertValue_keyValue_ok {schema : String} {raw : Json}
    (h : (convertValue m owner (.keyValue schema) raw).outcome v = (.ok c, w)) :
    ∃ pairs k ownerVar a, raw = .object pairs ∧ m.keyValue schema = .ok k ∧
      owner.reference.var = some ownerVar ∧
      (convertPairs m owner ownerVar schema k pairs).outcome v = (.ok a, w) ∧
      c = { attachments := a } := by
  cases raw with
  | object pairs =>
    simp only [convertValue, ofMapping, ofReference, bind_eq_ok, ofExcept_eq_ok, mapError_eq_ok,
      pure_eq_ok] at h
    obtain ⟨k, _, ⟨hk, rfl⟩, ownerVar, _, ⟨hvar, rfl⟩, a, _, hpairs, rfl, rfl⟩ := h
    exact ⟨pairs, k, ownerVar, a, rfl, hk, Reference.requireVar_eq_ok.mp hvar, hpairs, rfl⟩
  | _ => simp [convertValue, ofValue, Except.mapError] at h

/-- A dictionary is converted entry by entry. -/
theorem convertValue_dictionary_ok {raw : Json}
    (h : (convertValue m owner .dictionary raw).outcome v = (.ok c, w)) :
    ∃ entries ownerVar a, raw = .object entries ∧ owner.reference.var = some ownerVar ∧
      (convertEntries m owner ownerVar entries).outcome v = (.ok a, w) ∧
      c = { attachments := a } := by
  cases raw with
  | object entries =>
    simp only [convertValue, ofReference, bind_eq_ok, ofExcept_eq_ok, mapError_eq_ok,
      pure_eq_ok] at h
    obtain ⟨ownerVar, _, ⟨hvar, rfl⟩, a, _, hentries, rfl, rfl⟩ := h
    exact ⟨entries, ownerVar, a, rfl, Reference.requireVar_eq_ok.mp hvar, hentries, rfl⟩
  | _ => simp [convertValue, ofValue, Except.mapError] at h

/-! ## Lists of values, fields, pairs and entries -/

/-- Items are converted one after the other, and what they give is put together. -/
theorem convertItems_cons_ok {element : ValueType} {item : Json} {rest : List Json}
    (h : (convertItems m owner element (item :: rest)).outcome v = (.ok c, w)) :
    ∃ first others u, (convertValue m owner element item).outcome v = (.ok first, u) ∧
      (convertItems m owner element rest).outcome u = (.ok others, w) ∧
      c = ⟨first.literals ++ others.literals, first.attachments ++ others.attachments⟩ := by
  simp only [convertItems, bind_eq_ok, pure_eq_ok] at h
  obtain ⟨first, u, hfirst, others, _, hothers, rfl, rfl⟩ := h
  exact ⟨first, others, u, hfirst, hothers, rfl⟩

/-- Fields are converted one after the other, each by its entry in the schema. -/
theorem convertFields_cons_ok {schema : String} {self : Reference} {field : String} {raw : Json}
    {rest : List (String × Json)} {g : Gathered}
    (h : (convertFields m schema self ((field, raw) :: rest)).outcome v = (.ok g, w)) :
    ∃ info first others u, m.compositeAttribute schema field = .ok info ∧
      (convertValue m ⟨self, info.name⟩ info.valueType raw).outcome v = (.ok first, u) ∧
      (convertFields m schema self rest).outcome u = (.ok others, w) ∧
      g = ⟨(info.name, first.literals) :: others.attributes,
        first.attachments ++ others.attachments⟩ := by
  simp only [convertFields, ofMapping, bind_eq_ok, ofExcept_eq_ok, mapError_eq_ok,
    pure_eq_ok] at h
  obtain ⟨info, _, ⟨hinfo, rfl⟩, first, u, hfirst, others, _, hothers, rfl, rfl⟩ := h
  exact ⟨info, first, others, u, hinfo, hfirst, hothers, rfl⟩

/-- A pair becomes an entity of its key with the literals of its value, and a tie to its owner. -/
theorem convertPairs_cons_ok {ownerVar schema : String} {k : KeyValueMapping} {key : String}
    {raw : Json} {rest : List (String × Json)} {a : Attachments}
    (h : (convertPairs m owner ownerVar schema k ((key, raw) :: rest)).outcome v = (.ok a, w)) :
    ∃ converted entity others u u',
      (convertValue m owner k.valueType raw).outcome v = (.ok converted, u) ∧
      converted.attachments = {} ∧
      (keyEntity schema k key).outcome u = (.ok entity, u') ∧
      (convertPairs m owner ownerVar schema k rest).outcome ⟨u'.issued + 1⟩ = (.ok others, w) ∧
      a = .helper (entity.addAttributes k.valueAttribute converted.literals)
        (k.relation.tie (Variables.nameOf u'.issued) ownerVar entity.var) ++ others := by
  simp only [convertPairs, ofValue, bind_eq_ok, ofExcept_eq_ok, mapError_eq_ok, fresh_eq_ok,
    onlyLiterals_eq_ok, pure_eq_ok] at h
  obtain ⟨converted, u, hvalue, _, _, ⟨⟨hempty, rfl⟩, rfl⟩, entity, u', hentity, _, _, ⟨rfl, rfl⟩,
    others, _, hothers, rfl, rfl⟩ := h
  exact ⟨converted, entity, others, u, u', hvalue, hempty, hentity, hothers, rfl⟩

/-- An entry becomes an entity of the item for the type that its value has, and a tie to its owner.
-/
theorem convertEntries_cons_ok {ownerVar key : String} {raw : Json}
    {rest : List (String × Json)} {a : Attachments}
    (h : (convertEntries m owner ownerVar ((key, raw) :: rest)).outcome v = (.ok a, w)) :
    ∃ type item converted others u, raw.inferType = .ok type ∧
      type.elementType.isPrimitive = true ∧ m.dictionaryItem type = .ok item ∧
      (convertValue m owner type raw).outcome v = (.ok converted, u) ∧
      converted.attachments = {} ∧
      (convertEntries m owner ownerVar rest).outcome ⟨u.issued + 2⟩ = (.ok others, w) ∧
      a = .helper
        ((Entity.addAttribute { var := Variables.nameOf u.issued, typeName := item.entityType }
          m.dictionary.keyAttribute (quote key)).addAttributes item.valueAttribute
            converted.literals)
        ((m.dictionary.relation.tie (Variables.nameOf (u.issued + 1)) ownerVar
          (Variables.nameOf u.issued)).addAttribute m.dictionary.propertyAttribute
            (quote owner.attributeName)) ++ others := by
  simp only [convertEntries, ofValue, ofMapping, bind_eq_ok, ofExcept_eq_ok, mapError_eq_ok,
    fresh_eq_ok, onlyLiterals_eq_ok, pure_eq_ok] at h
  obtain ⟨type, _, ⟨htype, rfl⟩, _, _, ⟨hprimitive, rfl⟩, item, _, ⟨hitem, rfl⟩, converted, u,
    hvalue, _, _, ⟨⟨hempty, rfl⟩, rfl⟩, _, _, ⟨rfl, rfl⟩, _, _, ⟨rfl, rfl⟩, others, _, hothers, rfl,
    rfl⟩ := h
  refine ⟨type, item, converted, others, u, htype, ?_, hitem, hvalue, hempty, hothers, rfl⟩
  by_contra hnot
  simp [hnot] at hprimitive

/-! ## Properties -/

namespace Subject

variable {s : Subject} {self : Reference} {collected : Collected}

/-- A property is left out because it is not mapped, is converted, or is left out because it
failed, which only a lenient conversion survives. -/
theorem property_ok {label : String} {info : Option AttributeInfo} {raw : Json}
    (h : (s.property self label info raw).outcome v = (.ok collected, w)) :
    (info = none ∧ collected = { skipped := [⟨label, .unmapped⟩] } ∧ w = v) ∨
    (∃ i converted, info = some i ∧
      (convertValue s.mapping ⟨self, i.name⟩ i.valueType raw).outcome v = (.ok converted, w) ∧
      collected = { attributes := [(i.name, converted.literals)],
                    attachments := converted.attachments }) ∨
    ∃ i defect, info = some i ∧ s.strict = false ∧
      (convertValue s.mapping ⟨self, i.name⟩ i.valueType raw).outcome v = (.error defect, w) ∧
      collected = { skipped := [⟨label, .failed defect⟩] } := by
  cases info with
  | none =>
    simp only [property, pure_eq_ok] at h
    obtain ⟨rfl, rfl⟩ := h
    exact .inl ⟨rfl, rfl, rfl⟩
  | some i =>
    simp only [property, bind_eq_ok, outcome_attempt, Prod.mk.injEq, Except.ok.injEq] at h
    obtain ⟨_, u, ⟨rfl, rfl⟩, h⟩ := h
    -- a failure is only survived by a lenient conversion
    rcases hvalue : (convertValue s.mapping ⟨self, i.name⟩ i.valueType raw).outcome v
      with ⟨defect | converted, u⟩
    · cases hstrict : s.strict with
      | true => simp [hvalue, hstrict] at h
      | false =>
        rw [hvalue, hstrict] at h
        obtain ⟨rfl, rfl⟩ := pure_eq_ok.mp h
        exact .inr (.inr ⟨i, defect, rfl, rfl, hvalue, rfl⟩)
    · rw [hvalue] at h
      obtain ⟨rfl, rfl⟩ := pure_eq_ok.mp h
      exact .inr (.inl ⟨i, converted, rfl, hvalue, rfl⟩)

/-- Converts properties one after the other, where `entry` is the mapping's answer for a name and
`label` the name under which a property is reported. -/
def propertiesBy (s : Subject) (self : Reference)
    (entry : String → Except MappingDefect (Option AttributeInfo)) (label : String → String) :
    Members → Naming ObjectDefect Collected
  | [] => pure {}
  | (name, raw) :: rest => do
    let info ← ask (entry name)
    let first ← s.property self (label name) info raw
    let others ← propertiesBy s self entry label rest
    return first ++ others

/-- The properties of an object are looked up by its type, and reported under their own names. -/
theorem ownProperties_eq (s : Subject) (self : Reference) (members : Members) :
    s.ownProperties self members =
      s.propertiesBy self (s.mapping.attribute? s.stixType) id members := by
  induction members with
  | nil => rfl
  | cons member rest ih =>
    rw [ownProperties, propertiesBy, ih]
    rfl

/-- The properties in an extension are reported behind the extension's name. -/
theorem extensionProperties_eq (s : Subject) (self : Reference) (extension : String)
    (members : Members) :
    s.extensionProperties self extension members =
      s.propertiesBy self (s.mapping.extensionAttribute? s.stixType extension)
        (fun name => extension ++ "." ++ name) members := by
  induction members with
  | nil => rfl
  | cons member rest ih => rw [extensionProperties, propertiesBy, ih]

/-- Properties are looked up and converted one after the other. -/
theorem propertiesBy_cons_ok {entry : String → Except MappingDefect (Option AttributeInfo)}
    {label : String → String} {name : String} {raw : Json} {rest : Members}
    (h : (s.propertiesBy self entry label ((name, raw) :: rest)).outcome v = (.ok collected, w)) :
    ∃ info first others u, entry name = .ok info ∧
      (s.property self (label name) info raw).outcome v = (.ok first, u) ∧
      (s.propertiesBy self entry label rest).outcome u = (.ok others, w) ∧
      collected = first ++ others := by
  simp only [propertiesBy, ask, bind_eq_ok, ofExcept_eq_ok, mapError_eq_ok, pure_eq_ok] at h
  obtain ⟨info, _, ⟨hinfo, rfl⟩, first, u, hfirst, others, _, hothers, rfl, rfl⟩ := h
  exact ⟨info, first, others, u, hinfo, hfirst, hothers, rfl⟩

/-- An object's own properties come first, without role players, and then those of its extension. -/
theorem properties_eq_ok {roleplayers : List String} {extensions : Option Members} :
    (s.properties self roleplayers extensions).outcome v = (.ok collected, w) ↔
    ∃ own u relevant,
      (s.propertiesBy self (s.mapping.attribute? s.stixType) id
        (s.object.filter fun member => !roleplayers.contains member.1)).outcome v = (.ok own, u) ∧
      s.mapping.relevantExtension s.stixId s.stixType extensions = .ok relevant ∧
      ((relevant = none ∧ collected = own ∧ w = u) ∨
        ∃ name members more, relevant = some name ∧
          (extensions.bind fun e => e.get? name).bind Json.members? = some members ∧
          (s.propertiesBy self (s.mapping.extensionAttribute? s.stixType name)
            (fun property => name ++ "." ++ property) members).outcome u = (.ok more, w) ∧
          collected = own ++ more) := by
  simp only [properties, ownProperties_eq, extensionProperties_eq, ask, bind_eq_ok,
    ofExcept_eq_ok, mapError_eq_ok]
  constructor
  · rintro ⟨own, u, hown, relevant, _, ⟨hrelevant, rfl⟩, h⟩
    refine ⟨own, u, relevant, hown, hrelevant, ?_⟩
    cases relevant with
    | none =>
      obtain ⟨rfl, rfl⟩ := pure_eq_ok.mp h
      exact .inl ⟨rfl, rfl, rfl⟩
    | some name =>
      cases hmembers : (extensions.bind fun e => e.get? name).bind Json.members? with
      | none => simp [hmembers, reject] at h
      | some members =>
        simp only [hmembers, bind_eq_ok, pure_eq_ok] at h
        obtain ⟨more, _, hmore, rfl, rfl⟩ := h
        exact .inr ⟨name, members, more, rfl, hmembers, hmore, rfl⟩
  · rintro ⟨own, u, relevant, hown, hrelevant, hrest⟩
    refine ⟨own, u, hown, relevant, u, ⟨hrelevant, rfl⟩, ?_⟩
    rcases hrest with ⟨rfl, rfl, rfl⟩ | ⟨name, members, more, rfl, hmembers, hmore, rfl⟩
    · rfl
    · simp only [hmembers]
      exact bind_eq_ok.mpr ⟨more, w, hmore, rfl⟩

/-! ## Role players -/

/-- Identifiers are given back if there are some and none of them is without characters. -/
theorem specified_ok {property : String} {ids found : List String}
    (h : (do
      if ids.isEmpty || ids.any String.isEmpty then s.reject .unspecifiedProperty property
      return ids : Naming ObjectDefect (List String)).outcome v = (.ok found, w)) :
    found = ids ∧ ids ≠ [] ∧ (∀ id ∈ ids, id ≠ "") ∧ w = v := by
  by_cases hunspecified : (ids.isEmpty || ids.any String.isEmpty) = true
  · rw [if_pos hunspecified] at h
    simp [reject] at h
  · rw [if_neg hunspecified] at h
    obtain ⟨rfl, rfl⟩ := pure_eq_ok.mp h
    simp only [Bool.or_eq_true, not_or, List.isEmpty_iff, List.any_eq_true, not_exists,
      not_and, String.isEmpty_iff] at hunspecified
    exact ⟨rfl, hunspecified.1, hunspecified.2, rfl⟩

/-- Role players are one identifier, or a list of some, and none of them is empty. -/
theorem roleplayerIds_ok {property : String} {raw : Json} {ids : List String}
    (h : (s.roleplayerIds property raw).outcome v = (.ok ids, w)) :
    ((∃ id, raw = .string id ∧ ids = [id]) ∨
      ∃ items, raw = .array items ∧ allTexts? items = some ids) ∧
      ids ≠ [] ∧ (∀ id ∈ ids, id ≠ "") ∧ w = v := by
  cases raw with
  | string id =>
    obtain ⟨rfl, hspecified⟩ := specified_ok h
    exact ⟨.inl ⟨id, rfl, rfl⟩, hspecified⟩
  | array items =>
    simp only [roleplayerIds] at h
    cases htexts : allTexts? items with
    | none => simp [htexts, reject] at h
    | some texts =>
      rw [htexts] at h
      obtain ⟨rfl, hspecified⟩ := specified_ok h
      exact ⟨.inr ⟨items, rfl, htexts⟩, hspecified⟩
  | _ => simp [roleplayerIds, reject] at h

/-- Role players are matched one after the other, each by the supertype of its type. -/
theorem matchIds_cons_ok {property id : String} {rest : List String} {entities : List Entity}
    (h : (s.matchIds property (id :: rest)).outcome v = (.ok entities, w)) :
    ∃ playerType supertype others, Stix.typeOfId? id = some playerType ∧
      s.mapping.supertype playerType = .ok supertype ∧
      (s.matchIds property rest).outcome ⟨v.issued + 1⟩ = (.ok others, w) ∧
      entities = .matching v.issued supertype id :: others := by
  simp only [matchIds] at h
  cases htype : Stix.typeOfId? id with
  | none => simp [htype, reject] at h
  | some playerType =>
    simp only [htype, ask, bind_eq_ok, ofExcept_eq_ok, mapError_eq_ok, Naming.mapError_eq_ok,
      pure_eq_ok] at h
    obtain ⟨supertype, _, ⟨hsuper, rfl⟩, _, _, hmatch, others, _, hothers, rfl, rfl⟩ := h
    obtain ⟨targetName, targetId, hname, hid, rfl, rfl⟩ := Reference.matchEntity_ok hmatch
    obtain rfl := Option.some.inj (Reference.known_typeName_eq_some hname)
    obtain rfl := Option.some.inj (Reference.known_stixId_eq_some hid)
    exact ⟨playerType, _, others, rfl, hsuper, hothers, rfl⟩

/-- A property that the object lacks names no players, and any other one names those that are
matched. -/
theorem players_cons_ok {typeName property : String} {rest : List String}
    {players : List (String × Entity)}
    (h : (s.players typeName (property :: rest)).outcome v = (.ok players, w)) :
    (s.object.get? property = none ∧
      (s.players typeName rest).outcome v = (.ok players, w)) ∨
    ∃ raw ids role entities others u, s.object.get? property = some raw ∧
      (s.roleplayerIds property raw).outcome v = (.ok ids, v) ∧
      s.mapping.role typeName property = .ok role ∧
      (s.matchIds property ids).outcome v = (.ok entities, u) ∧
      (s.players typeName rest).outcome u = (.ok others, w) ∧
      players = (entities.map fun player => (role, player)) ++ others := by
  simp only [Subject.players] at h
  cases hraw : s.object.get? property with
  | none =>
    simp only [hraw, bind_eq_ok, pure_eq_ok] at h
    obtain ⟨_, _, ⟨rfl, rfl⟩, others, _, hothers, rfl, rfl⟩ := h
    exact .inl ⟨rfl, hothers⟩
  | some raw =>
    simp only [hraw, ask, bind_eq_ok, ofExcept_eq_ok, mapError_eq_ok, pure_eq_ok] at h
    -- reading the identifiers draws no variables, so players are matched on the same supply
    obtain ⟨ids, _, hids, role, _, ⟨hrole, rfl⟩, entities, u, hmatch, _, _, ⟨rfl, rfl⟩, others, _,
      hothers, rfl, rfl⟩ := h
    obtain ⟨-, -, -, rfl⟩ := roleplayerIds_ok hids
    exact .inr ⟨raw, ids, role, entities, others, u, rfl, hids, hrole, hmatch, hothers, rfl⟩

/-- Which objects are matched does not hang on the object's members, nor on whether it is converted
strictly. -/
theorem matchIds_with (s : Subject) (strict : Bool) (object : Members) (property : String)
    (ids : List String) :
    ({ s with strict, object } : Subject).matchIds property ids = s.matchIds property ids := by
  induction ids with
  | nil => rfl
  | cons id rest ih =>
    rw [matchIds, matchIds, ih]
    rfl

/-- Role players hang on the properties that name them. An object is no role player, whichever it
is. -/
theorem players_with (s : Subject) (strict : Bool) (object : Members) (typeName : String)
    {properties : List String}
    (h : ∀ property ∈ properties, object.get? property = s.object.get? property ∨
      ∃ a b, s.object.get? property = some (.object a) ∧
        object.get? property = some (.object b)) :
    ({ s with strict, object } : Subject).players typeName properties =
      s.players typeName properties := by
  induction properties with
  | nil => rfl
  | cons property rest ih =>
    rw [players, players, ih fun other hother => h other (List.mem_cons_of_mem _ hother)]
    simp only [matchIds_with]
    rcases h property List.mem_cons_self with heq | ⟨a, b, hobject, hobject'⟩
    · rw [heq]
      rfl
    · rw [hobject, hobject']
      rfl

/-! ## The main thing -/

variable {drafted : Draft × List Skipped} {typeName : String} {extensions : Option Members}

/-- The entity that stands for an object, under the variable `n`. -/
def mainEntity (n : Nat) (typeName : String) (attributes : List (String × List String)) :
    MainThing :=
  .entity (attributes.foldl (fun e a => e.addAttributes a.1 a.2)
    { var := Variables.nameOf n, typeName })

/-- The relation that stands for an object, under the variable `n`. -/
def mainRelation (s : Subject) (n : Nat) (typeName : String) (players : List (String × Entity))
    (attributes : List (String × List String)) : MainThing :=
  let relation : Relation := { var := Variables.nameOf n, typeName }
  let relation := players.foldl (fun r p => r.addPlayer p.1 p.2.var) relation
  let relation := relation.addAttributes relationNameAttribute (s.relationName typeName)
  .relation (attributes.foldl (fun r a => r.addAttributes a.1 a.2) relation)
    (players.map Prod.snd)

/-- An entity takes the first variable, and its properties the ones after it. -/
theorem entityDraft_eq_ok :
    (s.entityDraft typeName extensions).outcome v = (.ok drafted, w) ↔
    ∃ collected, (s.properties
        (.known (some s.stixId) (some (Variables.nameOf v.issued)) (some typeName))
        [] extensions).outcome ⟨v.issued + 1⟩ = (.ok collected, w) ∧
      drafted =
        ({ toAttachments := collected.attachments,
           main := some (mainEntity v.issued typeName collected.attributes) },
          collected.skipped) := by
  simp only [entityDraft, bind_eq_ok, fresh_eq_ok, pure_eq_ok]
  constructor
  · rintro ⟨_, _, ⟨rfl, rfl⟩, collected, _, hcollected, rfl, rfl⟩
    exact ⟨collected, hcollected, rfl⟩
  · rintro ⟨collected, hcollected, rfl⟩
    exact ⟨_, _, ⟨rfl, rfl⟩, collected, w, hcollected, rfl, rfl⟩

/-- A relation takes the first variable, then its players take some, of which there is one at least,
and then its properties. -/
theorem relationDraft_eq_ok :
    (s.relationDraft typeName extensions).outcome v = (.ok drafted, w) ↔
    ∃ roleplayers players u collected,
      s.mapping.roleplayerProperties s.stixType = .ok roleplayers ∧
      (s.players typeName roleplayers).outcome ⟨v.issued + 1⟩ = (.ok players, u) ∧
      players ≠ [] ∧
      (s.properties (.known (some s.stixId) (some (Variables.nameOf v.issued)) (some typeName))
        roleplayers extensions).outcome u = (.ok collected, w) ∧
      drafted =
        ({ toAttachments := collected.attachments,
           main := some (s.mainRelation v.issued typeName players collected.attributes) },
          collected.skipped) := by
  simp only [relationDraft, ask, bind_eq_ok, fresh_eq_ok, ofExcept_eq_ok, mapError_eq_ok]
  constructor
  · rintro ⟨_, _, ⟨rfl, rfl⟩, roleplayers, _, ⟨hroleplayers, rfl⟩, players, u, hplayers, h⟩
    -- without any player there is no relation
    by_cases hempty : players.isEmpty = true
    · rw [if_pos hempty] at h
      simp [reject] at h
    · rw [if_neg hempty] at h
      simp only [bind_eq_ok, pure_eq_ok] at h
      obtain ⟨collected, _, hcollected, rfl, rfl⟩ := h
      exact ⟨roleplayers, players, u, collected, hroleplayers, hplayers,
        fun hnil => hempty (List.isEmpty_iff.mpr hnil), hcollected, rfl⟩
  · rintro ⟨roleplayers, players, u, collected, hroleplayers, hplayers, hnonempty, hcollected, rfl⟩
    refine ⟨_, _, ⟨rfl, rfl⟩, roleplayers, _, ⟨hroleplayers, rfl⟩, players, u, hplayers, ?_⟩
    rw [if_neg fun hempty => hnonempty (List.isEmpty_iff.mp hempty)]
    exact bind_eq_ok.mpr ⟨collected, w, hcollected, rfl⟩

/-- An object with a class is drafted as the type that is chosen for it, and by its class. -/
theorem draft_eq_ok {objectClass : ObjectClass} :
    (s.draft objectClass).outcome v = (.ok drafted, w) ↔
    ∃ extensions typeName, s.extensions = .ok extensions ∧
      s.mapping.targetType? s.stixId s.stixType s.object extensions = .ok (some typeName) ∧
      (if objectClass = .relationship then s.relationDraft typeName extensions
        else s.entityDraft typeName extensions).outcome v = (.ok drafted, w) := by
  simp only [draft, ask, bind_eq_ok, ofExcept_eq_ok, mapError_eq_ok]
  constructor
  · rintro ⟨extensions, _, ⟨hextensions, rfl⟩, target, _, ⟨htarget, rfl⟩, h⟩
    cases target with
    | none => simp [reject] at h
    | some typeName => exact ⟨extensions, typeName, hextensions, htarget, h⟩
  · rintro ⟨extensions, typeName, hextensions, htarget, h⟩
    exact ⟨extensions, _, ⟨hextensions, rfl⟩, some typeName, _, ⟨htarget, rfl⟩, h⟩

/-- The conversion of an object that has a class, as one computation. -/
def conversion (s : Subject) (objectClass : ObjectClass) : Naming ObjectDefect Conversion := do
  let (draft, skipped) ← s.draft objectClass
  let statements ← Naming.ofExcept (draft.order.mapError fun defect => .rejected defect.rejection)
  return { stixId := s.stixId, statements, skipped }

/-- An object with a class is converted by a computation that starts with no variable in use. -/
theorem convert_eq_conversion (s : Subject) {objectClass : ObjectClass}
    (hclass : s.mapping.classOf? s.stixType = some objectClass) :
    s.convert = ((s.conversion objectClass).outcome {}).1 := by
  rw [convert]
  rw [hclass, conversion, outcome_bind]
  change ((s.draft objectClass).outcome {}).1 >>= _ = _
  rcases (s.draft objectClass).outcome {} with ⟨defect | ⟨draft, skipped⟩, w⟩
  · rfl
  · change (draft.order.mapError fun defect => ObjectDefect.rejected defect.rejection) >>= _ =
      ((Naming.ofExcept (draft.order.mapError fun defect => .rejected defect.rejection) >>=
        _ : Naming ObjectDefect Conversion).outcome w).1
    rcases draft.order with defect | statements <;> rfl

/-- An object is converted to nothing, as it has no class, or to the statements of its draft. -/
theorem convert_ok {conversion : Conversion} (h : s.convert = .ok conversion) :
    (s.mapping.classOf? s.stixType = none ∧ conversion = { stixId := s.stixId }) ∨
    ∃ objectClass draft skipped w statements,
      s.mapping.classOf? s.stixType = some objectClass ∧
      (s.draft objectClass).outcome {} = (.ok (draft, skipped), w) ∧
      draft.order = .ok statements ∧
      conversion = { stixId := s.stixId, statements, skipped } := by
  cases hclass : s.mapping.classOf? s.stixType with
  | none =>
    rw [convert] at h
    rw [hclass] at h
    exact .inl ⟨rfl, (Except.ok.inj h).symm⟩
  | some objectClass =>
    rw [s.convert_eq_conversion hclass] at h
    obtain ⟨⟨draft, skipped⟩, w, hdraft, hrest⟩ := bind_eq_ok.mp (Prod.ext h rfl)
    obtain ⟨statements, u, horder, hresult⟩ := bind_eq_ok.mp hrest
    obtain ⟨rfl, -⟩ := pure_eq_ok.mp hresult
    obtain ⟨horder, -⟩ := ofExcept_eq_ok.mp horder
    exact .inr ⟨objectClass, draft, skipped, w, statements, rfl, hdraft, mapError_eq_ok.mp horder,
      rfl⟩

/-- A conversion has the identifier of its object. -/
theorem stixId_of_convert {conversion : Conversion} (h : s.convert = .ok conversion) :
    conversion.stixId = s.stixId := by
  rcases convert_ok h with ⟨-, rfl⟩ | ⟨_, _, _, _, _, -, -, -, rfl⟩
  · rfl
  · rfl

/-- An object can be converted only if it has texts for its identifier and its type. -/
theorem identify_eq_ok {m : Mapping} {strict : Bool} {object : Members} :
    identify m strict object = .ok s ↔ ∃ stixId stixType,
      requiredText object "id" none = .ok stixId ∧
      requiredText object "type" (some stixId) = .ok stixType ∧
      s = ⟨m, strict, object, stixId, stixType⟩ := by
  rw [identify]
  cases requiredText object "id" none with
  | error rejection => simp [bind, Except.bind]
  | ok stixId =>
    cases hstixType : requiredText object "type" (some stixId) with
    | error rejection => simp [hstixType, bind, Except.bind]
    | ok stixType => simp [hstixType, bind, Except.bind, pure, Except.pure, eq_comm]

/-- An object that is identified is taken as it is. -/
theorem of_identify {m : Mapping} {strict : Bool} {object : Members}
    (h : identify m strict object = .ok s) :
    s.mapping = m ∧ s.strict = strict ∧ s.object = object := by
  obtain ⟨stixId, stixType, -, -, rfl⟩ := identify_eq_ok.mp h
  exact ⟨rfl, rfl, rfl⟩

end Subject

/-- An object that is identified is converted as what it was identified as. -/
theorem convertObject_eq {s : Subject} {strict : Bool} {object : Members}
    (hs : Subject.identify m strict object = .ok s) :
    convertObject m strict object = s.convert := by
  rw [convertObject, hs]
  rfl

/-- An object that is converted was identified. -/
theorem convertObject_ok {strict : Bool} {object : Members} {conversion : Conversion}
    (h : convertObject m strict object = .ok conversion) :
    ∃ s, Subject.identify m strict object = .ok s ∧ s.convert = .ok conversion := by
  obtain ⟨s, hs, h⟩ := except_bind_eq_ok.mp h
  exact ⟨s, mapError_eq_ok.mp hs, h⟩

end ThreatGraph
