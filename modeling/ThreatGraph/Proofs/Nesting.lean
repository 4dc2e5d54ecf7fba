import Mathlib
import ThreatGraph.Proofs.Attachment
import ThreatGraph.Proofs.Resolution

/-!
# How deep conversions go

Schemas of nested objects may refer to themselves or to each other in circles, so a conversion that
follows them may come back to the same schema any number of times. What it cannot come back to is
the same value: each step goes from a value to one inside it (`Mapping.Has.count_lt`).

* `convertLevel` is one step of a conversion, with any other function in the place of the
  conversions inside. `convertWithin n` repeats it `n` times, and when `n` is as large as the number
  of values, it does not matter what stands at the end (`convertWithin_eq`): the conversion does not
  get there, whatever the mapping.
* `Naming.DrawsAtMost` bounds the variables that a computation hands out, also where it fails. A
  value has three for each value that it consists of (`convertValue_draws`).
-/

namespace ThreatGraph

open Naming

/-! ## The number of values -/

namespace Json

mutual

/-- The number of values that a value consists of: itself and those inside it, at any depth. -/
def count : Json → Nat
  | .array items => countItems items + 1
  | .object members => countMembers members + 1
  | _ => 1

/-- The number of values that the items consist of. -/
def countItems : List Json → Nat
  | [] => 0
  | item :: rest => item.count + countItems rest

/-- The number of values that the members consist of. -/
def countMembers : List (String × Json) → Nat
  | [] => 0
  | (_, value) :: rest => value.count + countMembers rest

end

/-- The values of a list are counted item by item. -/
theorem countItems_eq (items : List Json) : countItems items = (items.map count).sum := by
  induction items with
  | nil => rfl
  | cons item rest ih => rw [countItems, ih, List.map_cons, List.sum_cons]

/-- The values of an object are counted member by member. -/
theorem countMembers_eq (members : List (String × Json)) :
    countMembers members = (members.map fun member => member.2.count).sum := by
  induction members with
  | nil => rfl
  | cons member rest ih => rw [countMembers, ih, List.map_cons, List.sum_cons]

/-- An item has no more values than the list. -/
theorem count_le_countItems {item : Json} {items : List Json} (h : item ∈ items) :
    item.count ≤ countItems items := by
  rw [countItems_eq]
  exact List.le_sum_of_mem (List.mem_map_of_mem h)

/-- A member has no more values than the object. -/
theorem count_le_countMembers {name : String} {value : Json} {members : List (String × Json)}
    (h : (name, value) ∈ members) : value.count ≤ countMembers members := by
  rw [countMembers_eq]
  exact List.le_sum_of_mem (List.mem_map_of_mem (f := fun member => member.2.count) h)

theorem count_pos (raw : Json) : 0 < raw.count := by
  cases raw <;> simp [count]

end Json

/-! ## One level of a conversion -/

/-- What converts values. -/
abbrev Converter := Owner → ValueType → Json → Naming PropertyDefect Converted

/-- What elements are converted to, together. -/
def Converted.joined (parts : List Converted) : Converted :=
  parts.foldr (fun first others =>
    ⟨first.literals ++ others.literals, first.attachments ++ others.attachments⟩) {}

/-- What fields are converted to, together. -/
def Gathered.joined (parts : List (String × Converted)) : Gathered :=
  parts.foldr (fun first others =>
    ⟨(first.1, first.2.literals) :: others.attributes,
      first.2.attachments ++ others.attachments⟩) {}

/-- What pairs or entries are converted to, together. -/
def Attachments.joined (parts : List Attachments) : Attachments := parts.foldr (· ++ ·) {}

section Level

variable (nested : Converter) (m : Mapping) (owner : Owner)

/-- The conversion of one field. -/
def fieldLevel (schema : String) (self : Reference) (field : String × Json) :
    Naming PropertyDefect (String × Converted) := do
  let info ← Naming.ofMapping (m.compositeAttribute schema field.1)
  return (info.name, ← nested ⟨self, info.name⟩ info.valueType field.2)

/-- The conversion of one pair. -/
def pairLevel (ownerVar schema : String) (k : KeyValueMapping) (pair : String × Json) :
    Naming PropertyDefect Attachments := do
  let converted ← nested owner k.valueType pair.2
  let literals ← Naming.ofValue (onlyLiterals k.valueType converted)
  let entity ← keyEntity schema k pair.1
  let entity := entity.addAttributes k.valueAttribute literals
  let tieVar ← Naming.fresh
  return .helper entity (k.relation.tie tieVar ownerVar entity.var)

/-- The conversion of one entry. -/
def entryLevel (ownerVar : String) (entry : String × Json) : Naming PropertyDefect Attachments := do
  let type ← Naming.ofValue entry.2.inferType
  Naming.ofValue
    (if type.elementType.isPrimitive then .ok () else .error (.nestedEntry entry.1 type))
  let item ← Naming.ofMapping (m.dictionaryItem type)
  let converted ← nested owner type entry.2
  let literals ← Naming.ofValue (onlyLiterals type converted)
  let var ← Naming.fresh
  let entity : Entity := { var, typeName := item.entityType }
  let entity := entity.addAttribute m.dictionary.keyAttribute (quote entry.1)
  let entity := entity.addAttributes item.valueAttribute literals
  let tieVar ← Naming.fresh
  let tie := m.dictionary.relation.tie tieVar ownerVar var
  let tie := tie.addAttribute m.dictionary.propertyAttribute (quote owner.attributeName)
  return .helper entity tie

/-- One level of a conversion: the values inside are converted by `nested`, and a value without
others inside is converted as it always is. -/
def convertLevel : ValueType → Json → Naming PropertyDefect Converted
  | .list element, .array items => do
    Naming.ofValue ((ValueType.list element).check (.array items))
    return Converted.joined (← items.mapM (nested owner element))
  | .composite schema, .object fields => do
    let composite ← Naming.ofMapping (m.composite schema)
    let var ← Naming.fresh
    let self := Reference.known none (some var) (some composite.typeName)
    let gathered := Gathered.joined (← fields.mapM (fieldLevel nested m schema self))
    let ownerVar ← Naming.ofReference owner.reference.requireVar
    let tieVar ← Naming.fresh
    let entity : Entity := { var, typeName := composite.typeName }
    let entity := gathered.attributes.foldl (fun e a => e.addAttributes a.1 a.2) entity
    let helper := Attachments.helper entity (composite.relation.tie tieVar ownerVar var)
    return { attachments := helper ++ gathered.attachments }
  | .keyValue schema, .object pairs => do
    let k ← Naming.ofMapping (m.keyValue schema)
    let ownerVar ← Naming.ofReference owner.reference.requireVar
    return { attachments := .joined (← pairs.mapM (pairLevel nested owner ownerVar schema k)) }
  | .dictionary, .object entries => do
    let ownerVar ← Naming.ofReference owner.reference.requireVar
    return { attachments := .joined (← entries.mapM (entryLevel nested m owner ownerVar)) }
  | type, raw => convertValue m owner type raw

end Level

variable {m : Mapping} {owner : Owner}

theorem convertItems_eq (element : ValueType) (items : List Json) :
    convertItems m owner element items =
      Converted.joined <$> items.mapM (convertValue m owner element) := by
  induction items with
  | nil => rfl
  | cons item rest ih =>
    rw [convertItems, ih, List.mapM_cons]
    simp only [map_bind, bind_map_left, map_pure]
    rfl

/-- Fields are converted one by one, each as one level says. -/
theorem convertFields_eq (schema : String) (self : Reference) (fields : List (String × Json)) :
    convertFields m schema self fields =
      Gathered.joined <$> fields.mapM (fieldLevel (convertValue m) m schema self) := by
  induction fields with
  | nil => rfl
  | cons field rest ih =>
    rw [convertFields, ih, List.mapM_cons]
    simp only [fieldLevel, map_bind, bind_map_left, map_pure, bind_assoc, pure_bind]
    rfl

/-- Pairs are converted one by one, each as one level says. -/
theorem convertPairs_eq (ownerVar schema : String) (k : KeyValueMapping)
    (pairs : List (String × Json)) :
    convertPairs m owner ownerVar schema k pairs =
      Attachments.joined <$> pairs.mapM (pairLevel (convertValue m) owner ownerVar schema k) := by
  induction pairs with
  | nil => rfl
  | cons pair rest ih =>
    rw [convertPairs, ih, List.mapM_cons]
    simp only [pairLevel, map_bind, bind_map_left, map_pure, bind_assoc, pure_bind]
    rfl

/-- Entries are converted one by one, each as one level says. -/
theorem convertEntries_eq (ownerVar : String) (entries : List (String × Json)) :
    convertEntries m owner ownerVar entries =
      Attachments.joined <$> entries.mapM (entryLevel (convertValue m) m owner ownerVar) := by
  induction entries with
  | nil => rfl
  | cons entry rest ih =>
    rw [convertEntries, ih, List.mapM_cons]
    simp only [entryLevel, map_bind, bind_map_left, map_pure, bind_assoc, pure_bind]
    rfl

/-- A conversion is one level with conversions inside. -/
theorem convertLevel_convertValue (type : ValueType) (raw : Json) :
    convertLevel (convertValue m) m owner type raw = convertValue m owner type raw := by
  unfold convertLevel
  split
  · rw [convertValue, convertItems_eq]
    simp only [bind_pure_comp]
  · rw [convertValue]
    simp only [convertFields_eq, bind_map_left]
  · rw [convertValue]
    simp only [convertPairs_eq, bind_map_left]
  · rw [convertValue]
    simp only [convertEntries_eq, bind_map_left]
  · rfl

/-! ## Levels upon levels -/

/-- What is done with each member of a list may be put in other words. -/
theorem Naming.mapM_congr {ε α β : Type} {f g : α → Naming ε β} {xs : List α}
    (h : ∀ x ∈ xs, f x = g x) : xs.mapM f = xs.mapM g := by
  induction xs with
  | nil => rfl
  | cons x rest ih =>
    rw [List.mapM_cons, List.mapM_cons, h x List.mem_cons_self,
      ih fun y hy => h y (List.mem_cons_of_mem _ hy)]

/-- A level depends on how the values inside are converted, and on nothing else. -/
theorem convertLevel_congr {f g : Converter} {type : ValueType} {raw : Json}
    (h : ∀ owner type (inner : Json), inner.count < raw.count →
      f owner type inner = g owner type inner) :
    convertLevel f m owner type raw = convertLevel g m owner type raw := by
  unfold convertLevel
  -- what is nested counts for less than the value, whichever shape the value has
  split
  · next element items =>
    have hitems : items.mapM (f owner element) = items.mapM (g owner element) :=
      mapM_congr fun item hitem => h _ _ _ (Nat.lt_succ_of_le (Json.count_le_countItems hitem))
    rw [hitems]
  · next schema fields =>
    have hfields self :
        fields.mapM (fieldLevel f m schema self) = fields.mapM (fieldLevel g m schema self) := by
      refine mapM_congr fun field hfield => ?_
      have hinner := Nat.lt_succ_of_le (Json.count_le_countMembers hfield)
      simp only [fieldLevel, h _ _ field.2 hinner]
    simp only [hfields]
  · next schema pairs =>
    have hpairs ownerVar k : pairs.mapM (pairLevel f owner ownerVar schema k) =
        pairs.mapM (pairLevel g owner ownerVar schema k) := by
      refine mapM_congr fun pair hpair => ?_
      have hinner := Nat.lt_succ_of_le (Json.count_le_countMembers hpair)
      simp only [pairLevel, h _ _ pair.2 hinner]
    simp only [hpairs]
  · next entries =>
    have hentries ownerVar : entries.mapM (entryLevel f m owner ownerVar) =
        entries.mapM (entryLevel g m owner ownerVar) := by
      refine mapM_congr fun entry hentry => ?_
      have hinner := Nat.lt_succ_of_le (Json.count_le_countMembers hentry)
      simp only [entryLevel, h _ _ entry.2 hinner]
    simp only [hentries]
  · rfl

/-- The conversion through `n` levels, with `stuck` in the place of what lies deeper. -/
def convertWithin (stuck : Converter) (m : Mapping) : Nat → Converter
  | 0 => stuck
  | n + 1 => convertLevel (convertWithin stuck m n) m

/-- A conversion does not go through more levels than its value has values. -/
theorem convertWithin_eq (stuck : Converter) {type : ValueType} {raw : Json} {n : Nat}
    (h : raw.count ≤ n) :
    convertWithin stuck m n owner type raw = convertValue m owner type raw := by
  induction n generalizing owner type raw with
  | zero => exact absurd h (Nat.not_le_of_lt raw.count_pos)
  | succ n ih =>
    rw [convertWithin, ← convertLevel_convertValue]
    exact convertLevel_congr fun owner type inner hinner => ih (by omega)

/-! ## Variables that are handed out -/

namespace Naming

variable {ε ε' α β : Type} {n k : Nat}

/-- The computation hands out at most `n` variables, also where it fails. -/
def DrawsAtMost (n : Nat) (x : Naming ε α) : Prop :=
  ∀ v, ∃ drawn ≤ n, (x.outcome v).2 = ⟨v.issued + drawn⟩

namespace DrawsAtMost

theorem mono {x : Naming ε α} (h : x.DrawsAtMost n) (hle : n ≤ k) : x.DrawsAtMost k := by
  intro v
  obtain ⟨drawn, hdrawn, hv⟩ := h v
  exact ⟨drawn, hdrawn.trans hle, hv⟩

theorem pure (a : α) : (pure a : Naming ε α).DrawsAtMost n := fun _ => ⟨0, Nat.zero_le _, rfl⟩

theorem fresh : (fresh : Naming ε String).DrawsAtMost 1 := fun _ => ⟨1, Nat.le_refl _, rfl⟩

theorem ofExcept (result : Except ε α) : (ofExcept result).DrawsAtMost n :=
  fun _ => ⟨0, Nat.zero_le _, rfl⟩

/-- A failure that is put as another draws as many. -/
theorem mapError {f : ε' → ε} {x : Naming ε' α} (h : x.DrawsAtMost n) :
    (mapError f x).DrawsAtMost n := h

theorem bind {x : Naming ε α} {f : α → Naming ε β} (hx : x.DrawsAtMost n)
    (hf : ∀ a, (f a).DrawsAtMost k) : (x >>= f).DrawsAtMost (n + k) := by
  intro v
  obtain ⟨drawn, hdrawn, hv⟩ := hx v
  rw [outcome_bind]
  rcases hx : x.outcome v with ⟨e | a, u⟩
  · rw [hx] at hv
    exact ⟨drawn, by omega, hv⟩
  · obtain rfl : u = ⟨v.issued + drawn⟩ := by rw [← hv, hx]
    obtain ⟨more, hmore, hw⟩ := hf a ⟨v.issued + drawn⟩
    exact ⟨drawn + more, by omega, by rw [← Nat.add_assoc]; exact hw⟩

/-- Nothing is added up where the first part draws nothing unless the second fails at once. -/
theorem bind_either {x : Naming ε α} {f : α → Naming ε β} (hx : x.DrawsAtMost n)
    (hf : ∀ v a u, x.outcome v = (.ok a, u) →
      (u = v ∧ (f a).DrawsAtMost n) ∨ (f a).DrawsAtMost 0) : (x >>= f).DrawsAtMost n := by
  intro v
  obtain ⟨drawn, hdrawn, hv⟩ := hx v
  rw [outcome_bind]
  rcases hx : x.outcome v with ⟨e | a, u⟩
  · rw [hx] at hv
    exact ⟨drawn, hdrawn, hv⟩
  · rcases hf v a u hx with ⟨rfl, hall⟩ | hnone
    · exact hall u
    · obtain ⟨more, hmore, hw⟩ := hnone u
      obtain rfl : u = ⟨v.issued + drawn⟩ := by rw [← hv, hx]
      obtain rfl := Nat.le_zero.mp hmore
      exact ⟨drawn, hdrawn, hw⟩

/-- A result without variables adds nothing to what follows. -/
theorem ofExcept_bind {result : Except ε α} {f : α → Naming ε β}
    (hf : ∀ a, (f a).DrawsAtMost n) : (Naming.ofExcept result >>= f).DrawsAtMost n :=
  bind_either (ofExcept result) fun _ a _ h => .inl ⟨(ofExcept_eq_ok.mp h).2.symm, hf a⟩

theorem error_bind {f : α → Naming ε β} (e : ε) :
    (Naming.ofExcept (.error e) >>= f).DrawsAtMost n := fun _ => ⟨0, Nat.zero_le _, rfl⟩

theorem fresh_bind {f : String → Naming ε β} (hf : ∀ var, (f var).DrawsAtMost n) :
    (Naming.fresh >>= f).DrawsAtMost (n + 1) := by
  rw [Nat.add_comm]
  exact .bind .fresh hf

/-- What is done with each member of a list draws what all of them draw together. -/
theorem mapM {f : α → Naming ε β} {cost : α → Nat} {xs : List α}
    (h : ∀ x ∈ xs, (f x).DrawsAtMost (n * cost x)) :
    (xs.mapM f).DrawsAtMost (n * (xs.map cost).sum) := by
  induction xs with
  | nil => exact .pure _
  | cons x rest ih =>
    rw [List.mapM_cons, List.map_cons, List.sum_cons, Nat.mul_add]
    have hrest := ih fun y hy => h y (List.mem_cons_of_mem _ hy)
    exact .bind (h x List.mem_cons_self) fun _ => .bind (k := 0) hrest fun _ => .pure _

end DrawsAtMost

end Naming

/-- An object that is matched takes one variable at most. -/
theorem matched_draws (r : Reference) : (matched r).DrawsAtMost 1 :=
  .mapError (.ofExcept_bind fun _ => .ofExcept_bind fun _ => .fresh_bind fun _ => .pure _)

theorem convertLink_draws (typeName id targetType : String) :
    (convertLink m owner typeName id targetType).DrawsAtMost 3 := by
  refine .ofExcept_bind fun roles => .ofExcept_bind fun supertype => ?_
  refine .bind (k := 2) (matched_draws _) fun target => ?_
  refine .bind (k := 1) (matched_draws _) fun owner => ?_
  exact .fresh_bind fun _ => .pure _

theorem keyEntity_draws (schema : String) (k : KeyValueMapping) (key : String) :
    (keyEntity schema k key).DrawsAtMost 1 := by
  rw [keyEntity]
  split
  · exact .fresh_bind fun _ => .pure _
  · exact .fresh_bind fun _ => .pure _
  · exact .ofExcept _

/-- A value that may have no helpers and links draws as much as what is made of its literals, or as
much as it draws alone. -/
theorem onlyLiterals_draws {type : ValueType} {raw : Json} {n : Nat}
    {next : List String → Naming PropertyDefect Attachments}
    (h : (convertValue m owner type raw).DrawsAtMost n)
    (hnext : ∀ literals, (next literals).DrawsAtMost n) :
    (do
      let converted ← convertValue m owner type raw
      let literals ← ofValue (onlyLiterals type converted)
      next literals).DrawsAtMost n := by
  refine .bind_either h fun v converted u hconverted => ?_
  cases hliterals : onlyLiterals type converted with
  | ok literals =>
    have hnothing := (onlyLiterals_eq_ok.mp hliterals).1
    have hattached := convertValue_attached _ _ hconverted
    rw [hnothing] at hattached
    exact .inl ⟨hattached.eq_of_nothing.symm, .ofExcept_bind hnext⟩
  | error defect => exact .inr (.error_bind _)

/-- Members of an object take no more than all of their values together. -/
theorem mapM_members_draws {β : Type} {f : String × Json → Naming PropertyDefect β}
    {members : List (String × Json)}
    (h : ∀ member ∈ members, (f member).DrawsAtMost (3 * member.2.count)) :
    (members.mapM f).DrawsAtMost (3 * Json.countMembers members) := by
  rw [Json.countMembers_eq]
  exact .mapM h

theorem convertItems_draws {element : ValueType} {items : List Json}
    (h : ∀ item ∈ items, (convertValue m owner element item).DrawsAtMost (3 * item.count)) :
    (convertItems m owner element items).DrawsAtMost (3 * Json.countItems items) := by
  rw [convertItems_eq, Json.countItems_eq, ← bind_pure_comp]
  exact .bind (k := 0) (.mapM h) fun _ => .pure _

section Members

variable {members : List (String × Json)}
  (h : ∀ member ∈ members, ∀ owner type,
    (convertValue m owner type member.2).DrawsAtMost (3 * member.2.count))

include h

theorem convertFields_draws (schema : String) (self : Reference) :
    (convertFields m schema self members).DrawsAtMost (3 * Json.countMembers members) := by
  rw [convertFields_eq, ← bind_pure_comp]
  refine .bind (k := 0) (mapM_members_draws fun field hfield => ?_) fun _ => .pure _
  exact .ofExcept_bind fun info => .bind (k := 0) (h field hfield _ _) fun _ => .pure _

theorem convertPairs_draws (owner : Owner) (ownerVar schema : String) (k : KeyValueMapping) :
    (convertPairs m owner ownerVar schema k members).DrawsAtMost
      (3 * Json.countMembers members) := by
  rw [convertPairs_eq, ← bind_pure_comp]
  refine .bind (k := 0) (mapM_members_draws fun pair hpair => ?_) fun _ => .pure _
  refine onlyLiterals_draws (h pair hpair _ _) fun literals => ?_
  have hpos := pair.2.count_pos
  refine .mono (n := 2) (.bind (k := 1) (keyEntity_draws _ _ _) fun entity => ?_) (by omega)
  exact .fresh_bind fun _ => .pure _

theorem convertEntries_draws (owner : Owner) (ownerVar : String) :
    (convertEntries m owner ownerVar members).DrawsAtMost (3 * Json.countMembers members) := by
  rw [convertEntries_eq, ← bind_pure_comp]
  refine .bind (k := 0) (mapM_members_draws fun entry hentry => ?_) fun _ => .pure _
  refine .ofExcept_bind fun type => .ofExcept_bind fun _ => .ofExcept_bind fun item => ?_
  refine onlyLiterals_draws (h entry hentry _ _) fun literals => ?_
  have hpos := entry.2.count_pos
  refine .mono (n := 2) ?_ (by omega)
  exact .fresh_bind fun _ => .fresh_bind fun _ => .pure _

end Members

/-- A value draws at most three variables for each value that it consists of. -/
theorem convertValue_draws (owner : Owner) (type : ValueType) (raw : Json) :
    (convertValue m owner type raw).DrawsAtMost (3 * raw.count) := by
  induction hcount : raw.count using Nat.strong_induction_on generalizing owner type raw with
  | h count ih =>
    subst hcount
    have hmembers {members : List (String × Json)} (hraw : raw = .object members) :
        ∀ member ∈ members, ∀ owner type,
          (convertValue m owner type member.2).DrawsAtMost (3 * member.2.count) := by
      subst hraw
      exact fun member hmember owner type =>
        ih _ (Nat.lt_succ_of_le (Json.count_le_countMembers hmember)) owner type _ rfl
    cases type with
    | empty =>
      rw [convertValue]
      exact .pure _
    | roleplayer =>
      rw [convertValue]
      exact .pure _
    | scalar s =>
      rw [convertValue]
      exact .ofExcept_bind fun _ => .pure _
    | list element =>
      cases raw with
      | array items =>
        have hitems := convertItems_draws fun item hitem =>
          ih _ (Nat.lt_succ_of_le (Json.count_le_countItems hitem)) owner element _ rfl
        rw [convertValue]
        exact .ofExcept_bind fun _ => .mono hitems (by rw [Json.count]; omega)
      | _ => exact .ofExcept _
    | relation typeName =>
      cases raw with
      | string id =>
        rw [convertValue]
        split
        · exact .ofExcept _
        · exact .bind (k := 0) (convertLink_draws _ _ _) fun _ => .pure _
      | _ => exact .ofExcept _
    | composite schema =>
      cases raw with
      | object fields =>
        have hfields := convertFields_draws (hmembers rfl) schema
        rw [convertValue, Json.count, Nat.mul_add]
        -- the entity is drawn before the fields, and its tie after them
        refine .ofExcept_bind fun composite => .mono (.fresh_bind fun var => ?_)
          (Nat.le_succ (3 * Json.countMembers fields + 2))
        exact .bind (k := 1) (hfields _) fun gathered =>
          .ofExcept_bind fun ownerVar => .fresh_bind fun _ => .pure _
      | _ => exact .ofExcept _
    | keyValue schema =>
      cases raw with
      | object pairs =>
        have hpairs := convertPairs_draws (hmembers rfl) owner
        rw [convertValue]
        refine .ofExcept_bind fun k => .ofExcept_bind fun ownerVar => ?_
        exact .mono (.bind (k := 0) (hpairs ownerVar schema k) fun _ => .pure _)
          (by rw [Json.count]; omega)
      | _ => exact .ofExcept _
    | dictionary =>
      cases raw with
      | object entries =>
        have hentries := convertEntries_draws (hmembers rfl) owner
        rw [convertValue]
        refine .ofExcept_bind fun ownerVar => ?_
        exact .mono (.bind (k := 0) (hentries ownerVar) fun _ => .pure _)
          (by rw [Json.count]; omega)
      | _ => exact .ofExcept _

/-- **Conversions end, and draw few variables.** Whatever the mapping, and however its schemas refer
to each other, the conversion of a value does not go through more levels than the value consists of
values: what stands in the place of deeper conversions makes no difference. From any supply it comes
to a result, which may be a defect, and hands out at most three variables for each of those values
on the way. -/
theorem convertValue_ends (m : Mapping) (owner : Owner) (type : ValueType) (raw : Json) :
    (∀ (stuck : Converter) (n : Nat), raw.count ≤ n →
      convertWithin stuck m n owner type raw = convertValue m owner type raw) ∧
    ∀ v, ∃ result drawn, drawn ≤ 3 * raw.count ∧
      (convertValue m owner type raw).outcome v = (result, ⟨v.issued + drawn⟩) := by
  refine ⟨fun stuck n hn => convertWithin_eq stuck hn, fun v => ?_⟩
  obtain ⟨drawn, hdrawn, hv⟩ := convertValue_draws owner type raw v
  exact ⟨_, drawn, hdrawn, Prod.ext rfl hv⟩

/-- Under a mapping that was accepted and whose phases have phases after them, the conversion of six
values fails at the innermost, after it has gone through less than six levels. -/
theorem convertValue_ends_phases :
    let owner : Owner := ⟨.known (some "tool--1") (some "v0") (some "tool"), phasesEntry.name⟩
    let stuck : Converter := fun _ _ _ => pure {}
    let converted := convertValue phaseMapping owner phasesEntry.valueType sizedPhases
    Mapping.ofTexts phaseTexts = .ok phaseMapping ∧
      sizedPhases.count = 6 ∧
      convertWithin stuck phaseMapping 6 owner phasesEntry.valueType sizedPhases = converted ∧
      (converted.outcome {}).1 = .error (.mapping (.missing (.compositeField "size" "phase"))) ∧
      ∃ result drawn, drawn ≤ 3 * 6 ∧ converted.outcome {} = (result, ⟨0 + drawn⟩) := by
  intro owner stuck converted
  obtain ⟨hlevels, hdraws⟩ := convertValue_ends phaseMapping owner phasesEntry.valueType sizedPhases
  exact ⟨by cbv, rfl, hlevels stuck 6 (by decide), by cbv, hdraws {}⟩

end ThreatGraph
