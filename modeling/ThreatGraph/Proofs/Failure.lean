import ThreatGraph.Proofs.Success

/-!
# Why values fail

`Naming.FailsBy` bounds the reasons for which a computation can fail. A sequence fails for the
reasons of its parts, and a later part matters only for what the earlier ones can result in: the
keys of a map are looked up only in a schema that was found before.

Whatever the mapping, the conversion of a value stops at one of the parts that it leads to
(`Mapping.FailsAt`): the part does not fit, or it asks the mapping for something that is not there
(`Mapping.Stops`). `convertValue_failsAt` is an induction over the value, with one law for each way
to put computations together.
-/

namespace ThreatGraph

namespace Naming

variable {ε ε' α β : Type} {E : ε → Prop}

/-- The computation fails, if at all, for a reason of `E`. -/
def FailsBy (E : ε → Prop) (x : Naming ε α) : Prop :=
  ∀ v e, (x.outcome v).1 = .error e → E e

namespace FailsBy

theorem mono {E' : ε → Prop} {x : Naming ε α} (h : x.FailsBy E) (hE : ∀ e, E e → E' e) :
    x.FailsBy E' :=
  fun v e he => hE e (h v e he)

theorem pure (a : α) : (pure a : Naming ε α).FailsBy E := nofun

theorem fresh : (fresh : Naming ε String).FailsBy E := nofun

theorem throw {e : ε} (h : E e) : (throw e : Naming ε α).FailsBy E := by
  rintro v _ ⟨⟩
  exact h

theorem ofExcept {result : Except ε α} (h : ∀ e, result = .error e → E e) :
    (ofExcept result).FailsBy E :=
  fun _ e he => h e he

theorem attempt (x : Naming ε' α) : (x.attempt : Naming ε (Except ε' α)).FailsBy E := nofun

/-- A failure that is put as another fails for that one. -/
theorem mapError {f : ε' → ε} {x : Naming ε' α} (h : x.FailsBy fun e => E (f e)) :
    (mapError f x).FailsBy E := by
  intro v e he
  rw [outcome_mapError] at he
  obtain ⟨e', hx, rfl⟩ := mapError_eq_error.mp he
  exact h v e' hx

/-- What comes after a first part need be looked at only for what the first part can result in. -/
theorem bind {x : Naming ε α} {f : α → Naming ε β} (hx : x.FailsBy E)
    (hf : ∀ a v w, x.outcome v = (.ok a, w) → (f a).FailsBy E) : (x >>= f).FailsBy E := by
  intro v e h
  rcases bind_fails.mp h with h | ⟨a, u, ha, h⟩
  · exact hx v e h
  · exact hf a v u ha u e h

end FailsBy

end Naming

open Naming

/-! ## Parts of a value -/

/-- A value as it is converted: under a type, and for an attribute of its owner. -/
structure Part where
  /-- the name of the attribute -/
  name : String
  /-- the type -/
  type : ValueType
  /-- the value -/
  raw : Json

/-- A defect other than that a value would need helpers or links where it can have none. -/
def ValueDefect.OfPart (defect : ValueDefect) : Prop := ∀ type, defect ≠ .nested type

namespace Mapping

variable (m : Mapping)

/-- The conversion of one part is that of another first: of an element of a list, of a field of a
nested object, or of a value of a map. -/
inductive Has : Part → Part → Prop where
  | item {name : String} {element : ValueType} {items : List Json} {item : Json} :
    item ∈ items → Has ⟨name, .list element, .array items⟩ ⟨name, element, item⟩
  | field {name schema field : String} {fields : Members} {raw : Json} {info : AttributeInfo} :
    (field, raw) ∈ fields → m.compositeAttribute schema field = .ok info →
      Has ⟨name, .composite schema, .object fields⟩ ⟨info.name, info.valueType, raw⟩
  | pair {name schema key : String} {pairs : Members} {raw : Json} {k : KeyValueMapping} :
    (key, raw) ∈ pairs → m.keyValue schema = .ok k →
      Has ⟨name, .keyValue schema, .object pairs⟩ ⟨name, k.valueType, raw⟩
  | entry {name key : String} {entries : Members} {raw : Json} {type : ValueType} :
    (key, raw) ∈ entries → raw.inferType = .ok type → type.elementType.isPrimitive = true →
      Has ⟨name, .dictionary, .object entries⟩ ⟨name, type, raw⟩

/-- Why the conversion of a part stops at the part itself. -/
inductive Stops : Part → PropertyDefect → Prop where
  /-- it does not fit, or its owner does not -/
  | value {p : Part} {defect : ValueDefect} : defect.OfPart → Stops p (.value defect)
  /-- values of the schema are no single literals -/
  | nested {name schema : String} {raw : Json} {k : KeyValueMapping} :
    m.keyValues.get? schema = some k → k.valueType.elementType.isPrimitive = false →
      Stops ⟨name, .keyValue schema, raw⟩ (.value (.nested k.valueType))
  /-- its name is no pair of roles -/
  | roles {name typeName id : String} : Stix.rolePair? name = none →
      Stops ⟨name, .relation typeName, .string id⟩ (.mapping (.missing (.rolePair name)))
  /-- the type of the object that it refers to is not mapped -/
  | target {name typeName id stixType : String} : Stix.typeOfId? id = some stixType →
      m.objects.get? stixType = none →
      Stops ⟨name, .relation typeName, .string id⟩ (.mapping (.missing (.object stixType)))
  /-- there is no such schema of nested objects -/
  | composite {name schema : String} {raw : Json} : m.composites.get? schema = none →
      Stops ⟨name, .composite schema, raw⟩ (.mapping (.missing (.composite schema)))
  /-- the schema has no such field -/
  | field {name schema field : String} {fields : Members} {raw : Json} {c : CompositeMapping} :
    (field, raw) ∈ fields → m.composites.get? schema = some c → c.attributes.get? field = none →
      Stops ⟨name, .composite schema, .object fields⟩
        (.mapping (.missing (.compositeField field schema)))
  /-- there is no such key-value schema -/
  | keyValue {name schema : String} {raw : Json} : m.keyValues.get? schema = none →
      Stops ⟨name, .keyValue schema, raw⟩ (.mapping (.missing (.keyValue schema)))
  /-- the schema has no such key and takes no others -/
  | key {name schema key : String} {pairs : Members} {raw : Json} {k : KeyValueMapping} :
    (key, raw) ∈ pairs → m.keyValues.get? schema = some k → k.keys.get? key = none →
      k.custom = none →
      Stops ⟨name, .keyValue schema, .object pairs⟩
        (.mapping (.unsupportedKey schema key k.validKeys))
  /-- dictionaries keep no values of the type -/
  | item {name key : String} {entries : Members} {raw : Json} {type : ValueType} :
    (key, raw) ∈ entries → raw.inferType = .ok type →
      m.dictionary.items.get? type.elementType.tag = none →
      Stops ⟨name, .dictionary, .object entries⟩
        (.mapping (.missing (.dictionaryItem type.elementType.tag)))

/-- The conversion of a part stops there, or at a part that it leads to. -/
inductive FailsAt : Part → PropertyDefect → Prop where
  | here {p : Part} {defect : PropertyDefect} : m.Stops p defect → FailsAt p defect
  | inside {p q : Part} {defect : PropertyDefect} :
    m.Has p q → FailsAt q defect → FailsAt p defect

end Mapping

variable {m : Mapping} {owner : Owner}

/-! ## Steps -/

namespace Naming.FailsBy

variable {α : Type} {E : PropertyDefect → Prop}

/-- The check of a value fails for its defect. -/
theorem ofValue {result : Except ValueDefect α}
    (h : ∀ defect, result = .error defect → E (.value defect)) : (ofValue result).FailsBy E := by
  refine .ofExcept fun defect hdefect => ?_
  obtain ⟨_, hresult, rfl⟩ := mapError_eq_error.mp hdefect
  exact h _ hresult

/-- A question about the mapping fails for its defect. -/
theorem ofMapping {answer : Except MappingDefect α}
    (h : ∀ defect, answer = .error defect → E (.mapping defect)) :
    (ofMapping answer).FailsBy E := by
  refine .ofExcept fun defect hdefect => ?_
  obtain ⟨_, hanswer, rfl⟩ := mapError_eq_error.mp hdefect
  exact h _ hanswer

theorem ofFound {entry : Option α} {what : Missing}
    (h : entry = none → E (.mapping (.missing what))) :
    (Naming.ofMapping (Mapping.found entry what)).FailsBy E := by
  refine ofMapping fun defect hdefect => ?_
  obtain ⟨hnone, rfl⟩ := Mapping.found_eq_error.mp hdefect
  exact h hnone

/-- A reference that lacks what is asked for is a failure of the part that it is asked for. -/
theorem ofReference {p : Part} (result : Except ReferenceDefect α) :
    (ofReference result).FailsBy (m.FailsAt p) := by
  refine .ofExcept fun defect h => ?_
  obtain ⟨_, -, rfl⟩ := mapError_eq_error.mp h
  exact .here (.value nofun)

theorem matched {p : Part} (reference : Reference) :
    (matched reference).FailsBy (m.FailsAt p) :=
  .mapError fun _ _ _ => .here (.value nofun)

/-- A value is of another kind than its type asks for. -/
theorem mismatch {p : Part} {expected : Expected} {found : Json} :
    (Naming.ofValue (.error (.mismatch expected found)) : Naming PropertyDefect α).FailsBy
      (m.FailsAt p) := by
  refine ofValue fun defect h => ?_
  obtain rfl := Except.error.inj h
  exact .here (.value nofun)

/-- What stops at a part stops where it leads to from another. -/
theorem inside {p q : Part} {x : Naming PropertyDefect α} (h : x.FailsBy (m.FailsAt q))
    (hq : m.Has p q) : x.FailsBy (m.FailsAt p) :=
  h.mono fun _ hfails => .inside hq hfails

end Naming.FailsBy

theorem found_of_ofMapping {α : Type} {entry : Option α} {what : Missing} {a : α}
    {v w : Variables} (h : (ofMapping (Mapping.found entry what)).outcome v = (.ok a, w)) :
    entry = some a :=
  Mapping.found_eq_ok.mp (mapError_eq_ok.mp (ofExcept_eq_ok.mp h).1)

/-- A field is missing exactly if the schema does not list it. -/
theorem Mapping.compositeAttribute_eq_error {schema field : String} {c : CompositeMapping}
    (hc : m.composites.get? schema = some c) {defect : MappingDefect} :
    m.compositeAttribute schema field = .error defect ↔
      c.attributes.get? field = none ∧ defect = .missing (.compositeField field schema) := by
  rw [compositeAttribute, composite, hc]
  exact found_eq_error

/-- An object type has a supertype exactly if it is mapped. -/
theorem Mapping.supertype_eq_error {stixType : String} {defect : MappingDefect} :
    m.supertype stixType = .error defect ↔
      m.objects.get? stixType = none ∧ defect = .missing (.object stixType) := by
  cases h : m.objects.get? stixType <;> simp [supertype, object, found, h, eq_comm]

/-! ## Values that do not fit -/

namespace Literal

variable {raw : Json} {defect : ValueDefect}

/-- What is no long is reported as no integer. -/
theorem readLong_error (h : readLong raw = .error defect) : defect = .mismatch .integer raw := by
  unfold readLong at h
  simp only at h
  split at h
  · cases h
  · exact (Except.error.inj h).symm

/-- What is no double is reported as no finite number. -/
theorem readDouble_error (h : readDouble raw = .error defect) :
    defect = .mismatch .finiteNumber raw := by
  unfold readDouble at h
  simp only at h
  split at h
  · cases h
  · exact (Except.error.inj h).symm

/-- What cannot be read as a scalar is a mismatch or a text in a wrong form. -/
theorem read_error {s : Scalar} (h : read s raw = .error defect) : defect.OfPart := by
  cases s with
  | long =>
    cases hlong : readLong raw with
    | ok n => simp [read, hlong, Except.map] at h
    | error e =>
      obtain rfl := readLong_error hlong
      rw [read, hlong] at h
      cases h
      exact nofun
  | double =>
    cases hdouble : readDouble raw with
    | ok x => simp [read, hdouble, Except.map] at h
    | error e =>
      obtain rfl := readDouble_error hdouble
      rw [read, hdouble] at h
      cases h
      exact nofun
  | datetime =>
    cases raw with
    | string text =>
      rw [read] at h
      split at h
      · cases h
      · cases h
        exact nofun
    | _ => cases h; exact nofun
  -- the other scalars take values of one shape and refuse the rest as a mismatch
  | _ => cases raw <;> cases h <;> exact nofun

end Literal

namespace ValueType

/-- If a check of all items fails, it fails for one of them. -/
theorem exists_of_forM_error {α ε : Type} {f : α → Except ε Unit} {e : ε} {items : List α}
    (h : items.forM f = .error e) : ∃ item ∈ items, f item = .error e := by
  induction items with
  | nil => cases h
  | cons item rest ih =>
    have h : (f item >>= fun _ => rest.forM f) = .error e := h
    rcases except_bind_eq_error.mp h with h | ⟨_, -, h⟩
    · exact ⟨item, List.mem_cons_self, h⟩
    · obtain ⟨other, hother, h⟩ := ih h
      exact ⟨other, List.mem_cons_of_mem _ hother, h⟩

/-- A check fails because of a value of the wrong shape. -/
theorem check_error {type : ValueType} {raw : Json} {defect : ValueDefect}
    (h : type.check raw = .error defect) : defect.OfPart := by
  induction type generalizing raw with
  | list element ih =>
    cases raw with
    | array items =>
      rw [check] at h
      obtain ⟨item, -, h⟩ := exists_of_forM_error h
      -- a list does not fit because of one of its elements
      exact ih h
    | _ => cases h; exact nofun
  | scalar s =>
    rw [check] at h
    cases hread : Literal.read s raw with
    | ok literal => simp [hread, Except.map] at h
    | error e =>
      rw [hread] at h
      cases h
      exact Literal.read_error hread
  | relation typeName =>
    cases raw with
    | string id =>
      rw [check] at h
      split at h
      · cases h
      · cases h; exact nofun
    | _ => cases h; exact nofun
  | empty => cases h
  | roleplayer => cases h
  | _ => cases raw <;> cases h <;> exact nofun
end ValueType

/-- A type that cannot be inferred is a failure of the value. -/
theorem Json.inferType_error {raw : Json} {defect : ValueDefect}
    (h : raw.inferType = .error defect) : defect.OfPart := by
  fun_induction Json.inferType raw with
  | case1 => cases h; exact nofun
  | case8 first rest ih =>
    rcases except_bind_eq_error.mp h with h | ⟨element, -, h⟩
    · exact ih h
    · split at h
      · cases h; exact nofun
      · cases h
  | _ => cases h

/-! ## Literals -/

theorem attachments_of_items {s : Scalar} {items : List Json} {c : Converted} {v w : Variables}
    (h : (convertItems m owner (.scalar s) items).outcome v = (.ok c, w)) :
    c.attachments = {} := by
  induction items generalizing v c with
  | nil =>
    rw [convertItems] at h
    obtain ⟨rfl, -⟩ := pure_eq_ok.mp h
    rfl
  | cons item rest ih =>
    obtain ⟨first, others, u, hfirst, hothers, rfl⟩ := convertItems_cons_ok h
    obtain ⟨literal, -, rfl, -⟩ := convertValue_scalar_ok hfirst
    change ({} : Attachments) ++ others.attachments = {}
    rw [ih hothers]
    rfl

/-- Literals and lists of literals need no helpers and no links. -/
theorem attachments_of_primitive {type : ValueType} {raw : Json} {c : Converted} {v w : Variables}
    (htype : type.elementType.isPrimitive = true)
    (h : (convertValue m owner type raw).outcome v = (.ok c, w)) : c.attachments = {} := by
  cases type with
  | scalar s =>
    obtain ⟨literal, -, rfl, -⟩ := convertValue_scalar_ok h
    rfl
  | list element =>
    cases element with
    | scalar s =>
      obtain ⟨items, -, -, hitems⟩ := convertValue_list_ok h
      exact attachments_of_items hitems
    | _ => cases htype
  | _ => cases htype

/-- A value is nested exactly if something is attached. -/
theorem onlyLiterals_eq_error {type : ValueType} {c : Converted} {defect : ValueDefect}
    (h : onlyLiterals type c = .error defect) : c.attachments ≠ {} ∧ defect = .nested type := by
  unfold onlyLiterals at h
  split at h
  · cases h
  · next hempty =>
    refine ⟨fun heq => hempty ?_, (Except.error.inj h).symm⟩
    rw [heq]
    rfl

/-! ## Conversions -/

/-- A link fails if its target is not mapped, its owner cannot be matched, or the name holds no
roles. -/
theorem convertLink_fails {typeName id targetType : String}
    (htype : Stix.typeOfId? id = some targetType) :
    (convertLink m owner typeName id targetType).FailsBy
      (m.FailsAt ⟨owner.attributeName, .relation typeName, .string id⟩) := by
  refine .bind (.ofFound fun hnone => .here (.roles hnone)) fun roles _ _ _ => ?_
  refine .bind (.ofMapping fun defect h => ?_) fun supertype _ _ _ => ?_
  · obtain ⟨hnone, rfl⟩ := Mapping.supertype_eq_error.mp h
    exact .here (.target htype hnone)
  refine .bind (.matched _) fun target _ _ _ => ?_
  refine .bind (.matched _) fun ownerEntity _ _ _ => ?_
  exact .bind .fresh fun _ _ _ _ => .pure _

/-- The entity of a key fails if the schema neither lists the key nor keeps custom ones. -/
theorem keyEntity_fails {name schema key : String} {pairs : Members} {raw : Json}
    {k : KeyValueMapping} (hk : m.keyValues.get? schema = some k) (hpair : (key, raw) ∈ pairs) :
    (keyEntity schema k key).FailsBy (m.FailsAt ⟨name, .keyValue schema, .object pairs⟩) := by
  rw [keyEntity]
  split
  · exact .bind .fresh fun _ _ _ _ => .pure _
  · exact .bind .fresh fun _ _ _ _ => .pure _
  · next hkey hcustom =>
    refine .ofMapping fun defect h => ?_
    obtain rfl := Except.error.inj h
    exact .here (.key hpair hk hkey hcustom)

mutual

/-- The conversion of a value fails at a part that it leads to. -/
theorem convertValue_failsAt (owner : Owner) : ∀ (type : ValueType) (raw : Json),
    (convertValue m owner type raw).FailsBy (m.FailsAt ⟨owner.attributeName, type, raw⟩)
  | .empty, _ => by
    rw [convertValue]
    exact .pure _
  | .roleplayer, _ => by
    rw [convertValue]
    exact .pure _
  | .scalar s, raw => by
    rw [convertValue]
    refine .bind (.ofValue fun _ h => ?_) fun _ _ _ _ => .pure _
    exact .here (.value (Literal.read_error h))
  | .list element, raw => by
    cases raw with
    | array items =>
      rw [convertValue]
      refine .bind (.ofValue fun _ h => .here (.value (ValueType.check_error h))) fun _ _ _ _ => ?_
      exact convertItems_failsAt owner element items (List.Subset.refl _)
    | _ => exact .mismatch
  | .relation typeName, raw => by
    cases raw with
    | string id =>
      rw [convertValue]
      split
      · exact .mismatch
      · next htype => exact .bind (convertLink_fails htype) fun _ _ _ _ => .pure _
    | _ => exact .mismatch
  | .composite schema, raw => by
    cases raw with
    | object fields =>
      rw [convertValue]
      refine .bind (.ofFound fun hnone => .here (.composite hnone)) fun composite _ _ hc => ?_
      refine .bind .fresh fun var _ _ _ => ?_
      -- what the fields refer to is what the schema that was found declares
      refine .bind (convertFields_failsAt _ (found_of_ofMapping hc) _ fields (List.Subset.refl _))
        fun gathered _ _ _ => ?_
      refine .bind (.ofReference _) fun ownerVar _ _ _ => ?_
      exact .bind .fresh fun _ _ _ _ => .pure _
    | _ => exact .mismatch
  | .keyValue schema, raw => by
    cases raw with
    | object pairs =>
      rw [convertValue]
      refine .bind (.ofFound fun hnone => .here (.keyValue hnone)) fun k _ _ hk => ?_
      refine .bind (.ofReference _) fun ownerVar _ _ _ => ?_
      refine .bind ?_ fun _ _ _ _ => .pure _
      exact convertPairs_failsAt owner ownerVar (found_of_ofMapping hk) pairs (List.Subset.refl _)
    | _ => exact .mismatch
  | .dictionary, raw => by
    cases raw with
    | object entries =>
      rw [convertValue]
      refine .bind (.ofReference _) fun ownerVar _ _ _ => ?_
      refine .bind ?_ fun _ _ _ _ => .pure _
      exact convertEntries_failsAt owner ownerVar entries (List.Subset.refl _)
    | _ => exact .mismatch
  termination_by structural _ raw => raw

/-- Elements of a list `all` fail where the list leads to. -/
theorem convertItems_failsAt (owner : Owner) (element : ValueType) :
    ∀ (items : List Json) {all : List Json}, items ⊆ all →
      (convertItems m owner element items).FailsBy
        (m.FailsAt ⟨owner.attributeName, .list element, .array all⟩)
  | [], _, _ => by
    rw [convertItems]
    exact .pure _
  | item :: rest, _, hall => by
    obtain ⟨hitem, hrest⟩ := List.cons_subset.mp hall
    rw [convertItems]
    refine .bind ((convertValue_failsAt owner element item).inside (.item hitem))
      fun first _ _ _ => ?_
    exact .bind (convertItems_failsAt owner element rest hrest) fun _ _ _ _ => .pure _
  termination_by structural items => items

/-- Fields of a nested object `all` fail where the object leads to. -/
theorem convertFields_failsAt (name : String) {schema : String} {c : CompositeMapping}
    (hc : m.composites.get? schema = some c) (self : Reference) :
    ∀ (fields : List (String × Json)) {all : List (String × Json)}, fields ⊆ all →
      (convertFields m schema self fields).FailsBy
        (m.FailsAt ⟨name, .composite schema, .object all⟩)
  | [], _, _ => by
    rw [convertFields]
    exact .pure _
  | (field, raw) :: rest, _, hall => by
    obtain ⟨hfield, hrest⟩ := List.cons_subset.mp hall
    rw [convertFields]
    refine .bind (.ofMapping fun defect h => ?_) fun info _ _ hinfo => ?_
    · obtain ⟨hnone, rfl⟩ := (Mapping.compositeAttribute_eq_error hc).mp h
      exact .here (.field hfield hc hnone)
    have hinfo := mapError_eq_ok.mp (ofExcept_eq_ok.mp hinfo).1
    refine .bind ((convertValue_failsAt ⟨self, info.name⟩ info.valueType raw).inside
      (.field hfield hinfo)) fun first _ _ _ => ?_
    exact .bind (convertFields_failsAt name hc self rest hrest) fun _ _ _ _ => .pure _
  termination_by structural fields => fields

/-- Pairs of a map `all` fail where the map leads to. -/
theorem convertPairs_failsAt (owner : Owner) (ownerVar : String) {schema : String}
    {k : KeyValueMapping} (hk : m.keyValues.get? schema = some k) :
    ∀ (pairs : List (String × Json)) {all : List (String × Json)}, pairs ⊆ all →
      (convertPairs m owner ownerVar schema k pairs).FailsBy
        (m.FailsAt ⟨owner.attributeName, .keyValue schema, .object all⟩)
  | [], _, _ => by
    rw [convertPairs]
    exact .pure _
  | (key, raw) :: rest, _, hall => by
    obtain ⟨hpair, hrest⟩ := List.cons_subset.mp hall
    rw [convertPairs]
    refine .bind ((convertValue_failsAt owner k.valueType raw).inside
      (.pair hpair (Mapping.found_eq_ok.mpr hk))) fun converted _ _ hconverted => ?_
    refine .bind (.ofValue fun defect h => ?_) fun literals _ _ _ => ?_
    · -- a scalar attaches nothing, so only a type that is none can have attached something
      obtain ⟨hattached, rfl⟩ := onlyLiterals_eq_error h
      refine .here (.nested hk (Bool.eq_false_iff.mpr fun hprimitive => hattached ?_))
      exact attachments_of_primitive hprimitive hconverted
    refine .bind (keyEntity_fails hk hpair) fun entity _ _ _ => ?_
    refine .bind .fresh fun tieVar _ _ _ => ?_
    exact .bind (convertPairs_failsAt owner ownerVar hk rest hrest) fun _ _ _ _ => .pure _
  termination_by structural pairs => pairs

/-- Entries of a dictionary `all` fail where the dictionary leads to. -/
theorem convertEntries_failsAt (owner : Owner) (ownerVar : String) :
    ∀ (entries : List (String × Json)) {all : List (String × Json)}, entries ⊆ all →
      (convertEntries m owner ownerVar entries).FailsBy
        (m.FailsAt ⟨owner.attributeName, .dictionary, .object all⟩)
  | [], _, _ => by
    rw [convertEntries]
    exact .pure _
  | (key, raw) :: rest, _, hall => by
    obtain ⟨hentry, hrest⟩ := List.cons_subset.mp hall
    rw [convertEntries]
    refine .bind (.ofValue fun _ h => .here (.value (Json.inferType_error h)))
      fun type _ _ htype => ?_
    have htype := mapError_eq_ok.mp (ofExcept_eq_ok.mp htype).1
    by_cases hprimitive : type.elementType.isPrimitive = true
    · simp only [if_pos hprimitive]
      refine .bind (.ofValue nofun) fun _ _ _ _ => ?_
      refine .bind (.ofFound fun hnone => .here (.item hentry htype hnone)) fun item _ _ _ => ?_
      refine .bind ((convertValue_failsAt owner type raw).inside (.entry hentry htype hprimitive))
        fun converted _ _ hconverted => ?_
      -- values that are literals need nothing else
      refine .bind (.ofValue fun defect h => ?_) fun literals _ _ _ => ?_
      · exact absurd (attachments_of_primitive hprimitive hconverted) (onlyLiterals_eq_error h).1
      refine .bind .fresh fun var _ _ _ => ?_
      refine .bind .fresh fun tieVar _ _ _ => ?_
      exact .bind (convertEntries_failsAt owner ownerVar rest hrest) fun _ _ _ _ => .pure _
    · simp only [if_neg hprimitive]
      refine .bind (.ofValue fun defect h => ?_) fun _ _ _ h => nomatch h
      obtain rfl := Except.error.inj h
      exact .here (.value nofun)
  termination_by structural entries => entries

end

/-! ## Reasons -/

namespace Mapping

variable (m : Mapping)

/-- What is missing is really not in the mapping, and it is something that values ask for. -/
def Lacks : Missing → Prop
  | .object stixType => m.objects.get? stixType = none
  | .composite schema => m.composites.get? schema = none
  | .compositeField field schema =>
    ∃ c, m.composites.get? schema = some c ∧ c.attributes.get? field = none
  | .keyValue schema => m.keyValues.get? schema = none
  | .dictionaryItem tag => m.dictionary.items.get? tag = none
  | .rolePair name => Stix.rolePair? name = none
  | .document _ | .extension _ _ | .role _ _ => False

/-- Why a value can fail: it does not fit, the mapping lacks what it asks for, or its schema has
no place for one of its keys. -/
def FailsValue : PropertyDefect → Prop
  | .value _ => True
  | .mapping (.missing what) => m.Lacks what
  | .mapping (.unsupportedKey schema key _) =>
    ∃ k, m.keyValues.get? schema = some k ∧ k.keys.get? key = none ∧ k.custom = none
  | .mapping _ => False

variable {m} {p : Part} {defect : PropertyDefect}

/-- What stops a value is one of the reasons why values fail. -/
theorem Stops.failsValue (h : m.Stops p defect) : m.FailsValue defect := by
  cases h with
  | value | nested => trivial
  | roles hnone => exact hnone
  | target _ hnone => exact hnone
  | composite hnone => exact hnone
  | field _ hc hnone => exact ⟨_, hc, hnone⟩
  | keyValue hnone => exact hnone
  | key _ hk hkey hcustom => exact ⟨_, hk, hkey, hcustom⟩
  | item _ _ hnone => exact hnone

theorem FailsAt.failsValue (h : m.FailsAt p defect) : m.FailsValue defect := by
  induction h with
  | here h => exact h.failsValue
  | inside _ _ ih => exact ih

end Mapping

end ThreatGraph
