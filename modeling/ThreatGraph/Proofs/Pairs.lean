import ThreatGraph.Proofs.Filing
import ThreatGraph.Proofs.Inference

/-!
# Maps are kept pair by pair, or not at all

A dictionary and a key-value map become one helper for each of their members, in order, and each
helper holds its key and its value. Whether a member can be kept shows from the mapping and the
member alone: `Mapping.Holds` for the entries of a dictionary, `KeyValueMapping.Takes` for the pairs
of a key-value map. A map is converted exactly if all of its members can be kept, and the first
that cannot be decides what the conversion fails with (`Mapping.keeps_pairs`).

An attribute whose name is empty is none, so mappings can be written that drop the keys of a map
(`Mapping.keeps_no_keys`).
-/

namespace ThreatGraph

open Naming

/-! ## What helpers hold -/

/-- Texts to be filed under a name. A name without characters holds nothing. -/
def Attributes.named (name : String) (texts : List String) : List (String × String) :=
  if name = "" then [] else texts.map (name, ·)

/-- Several values are added one after the other, if none is empty. -/
theorem Attributes.addAll_eq {a : Attributes} {name : String} {texts : List String}
    (h : ∀ text ∈ texts, text ≠ "") :
    a.addAll name texts =
      (named name texts).foldl (fun (m : Multimap) pair => m.add pair.1 pair.2) a := by
  induction texts generalizing a with
  | nil =>
    rw [named, List.map_nil, ite_self]
    rfl
  | cons text rest ih =>
    obtain ⟨htext, hrest⟩ := List.forall_mem_cons.mp h
    refine (ih (a := a.add name text) hrest).trans ?_
    by_cases hname : name = ""
    · simp [named, Attributes.add, hname]
    · simp [named, Attributes.add, hname, htext]

theorem Attributes.add_eq {a : Attributes} {name text : String} (h : text ≠ "") :
    a.add name text =
      (named name [text]).foldl (fun (m : Multimap) pair => m.add pair.1 pair.2) a :=
  addAll_eq (List.forall_mem_singleton.mpr h)

/-- What a helper and its tie hold: the helper has a type and texts under names, and the tie is of
the given relation, has texts under names as well, and joins the owner and the helper. -/
structure Helper.Says (h : Helper) (typeName : String) (contents : List (String × String))
    (tie : HelperRelation) (ownerVar : String) (notes : List (String × String)) : Prop where
  typeName : h.entity.typeName = typeName
  contents : h.entity.attributes = Multimap.ofPairs contents
  tied : h.relation.typeName = tie.typeName
  players : h.relation.roles =
    Multimap.ofPairs [(tie.ownerRole, ownerVar), (tie.helperRole, h.entity.var)]
  notes : h.relation.attributes = Multimap.ofPairs notes

/-- The members of a map are kept: there is nothing for the owner itself and no link, and one
statement inserts for each member, in order, a helper with its tie. -/
structure Converted.Keeps (c : Converted) (kept : String × Json → Helper → Prop)
    (members : List (String × Json)) : Prop where
  literals : c.literals = []
  links : c.attachments.linkStatement.isEmpty = true
  helpers : ∃ helpers : List Helper,
    c.attachments.helperStatement =
      { inserted := helpers.flatMap fun h => [.entity h.entity, .relation h.relation] } ∧
    List.Forall₂ kept members helpers

/-! ## Dictionaries -/

/-- The helper is the entry's item: it holds the key and then the literals of the value, and its tie
names the property that the dictionary is the value of. -/
def Mapping.KeepsEntry (m : Mapping) (owner : Owner) (ownerVar : String) (entry : String × Json)
    (h : Helper) : Prop :=
  ∃ type item, m.Holds entry.2 type item ∧
    h.Says item.entityType
      (Attributes.named m.dictionary.keyAttribute [quote entry.1] ++
        Attributes.named item.valueAttribute (type.literals entry.2))
      m.dictionary.relation ownerVar
      (Attributes.named m.dictionary.propertyAttribute [quote owner.attributeName])

section Dictionaries

variable {m : Mapping} {owner : Owner} {ownerVar : String} {entries : List (String × Json)}
  {a : Attachments} {v w : Variables}

/-- Entries of a dictionary that are converted are kept, each by one helper and in order. -/
theorem convertEntries_keeps
    (h : (convertEntries m owner ownerVar entries).outcome v = (.ok a, w)) :
    a.links = [] ∧ List.Forall₂ (m.KeepsEntry owner ownerVar) entries a.helpers := by
  induction entries generalizing v a with
  | nil =>
    simp only [convertEntries, pure_eq_ok] at h
    obtain ⟨rfl, -⟩ := h
    exact ⟨rfl, .nil⟩
  | cons entry rest ih =>
    obtain ⟨key, raw⟩ := entry
    obtain ⟨type, item, c, others, u, htype, hprimitive, hitem, hvalue, -, hothers, rfl⟩ :=
      convertEntries_cons_ok h
    obtain ⟨hlinks, hrest⟩ := ih hothers
    refine ⟨hlinks, .cons ⟨type, item, ?_, ?_⟩ hrest⟩
    · exact ⟨htype, hprimitive, Mapping.found_eq_ok.mp hitem,
        (convertValue_literals hprimitive).mp ⟨c, u, hvalue⟩⟩
    · rw [convertValue_renders hvalue]
      constructor
      case contents =>
        rw [Multimap.ofPairs, List.foldl_append, ← Attributes.add_eq (isValue_quote key).ne_empty,
          ← Attributes.addAll_eq fun _ => ValueType.literal_ne_empty]
        rfl
      case notes => exact Attributes.add_eq (isValue_quote owner.attributeName).ne_empty
      all_goals rfl

end Dictionaries

/-! ## Key-value maps -/

namespace KeyValueMapping

/-- The type of the entity for a key, and what it holds of the key: nothing for a key of the table,
which the type tells already, and its text for any other key. -/
inductive Kept (k : KeyValueMapping) (key : String) : String → List (String × String) → Prop
  | known {typeName : String} : k.keys.get? key = some typeName → Kept k key typeName []
  | custom {custom : CustomKey} : k.keys.get? key = none → k.custom = some custom →
    Kept k key custom.entityType (Attributes.named custom.nameAttribute [quote key])

/-- The schema has a place for the key. -/
def HasPlace (k : KeyValueMapping) (key : String) : Prop :=
  key ∈ k.keys.names ∨ k.custom.isSome = true

/-- A map of the schema can hold the pair: there is a place for the key, and the value fits. -/
structure Takes (k : KeyValueMapping) (pair : String × Json) : Prop where
  place : k.HasPlace pair.1
  fits : k.valueType.check pair.2 = .ok ()

/-- The helper is the pair's entity: it holds what there is to hold of the key and then the literal
of the value. -/
def KeepsPair (k : KeyValueMapping) (ownerVar : String) (pair : String × Json) (h : Helper) :
    Prop :=
  k.Takes pair ∧ ∃ typeName contents, k.Kept pair.1 typeName contents ∧
    h.Says typeName
      (contents ++ Attributes.named k.valueAttribute (k.valueType.literals pair.2))
      k.relation ownerVar []

/-- Why a map of the schema is not converted if `(key, raw)` is the first pair that it cannot hold:
the value does not fit, or there is no place for the key, and the keys that there are places for are
listed in order. -/
inductive Refuses (k : KeyValueMapping) (schema key : String) (raw : Json) :
    PropertyDefect → Prop
  | value {defect : ValueDefect} : k.valueType.check raw = .error defect →
    Refuses k schema key raw (.value defect)
  | key {valid : List String} : k.valueType.check raw = .ok () → ¬k.HasPlace key →
    valid.Perm k.keys.names → valid.Pairwise (· ≤ ·) →
    Refuses k schema key raw (.mapping (.unsupportedKey schema key valid))

variable {k : KeyValueMapping} {schema key : String} {e : Entity} {v w : Variables}

/-- The keys that a schema takes are those that it lists. -/
theorem validKeys_perm (k : KeyValueMapping) : k.validKeys.Perm k.keys.names :=
  List.mergeSort_perm ..

theorem validKeys_sorted (k : KeyValueMapping) : k.validKeys.Pairwise (· ≤ ·) := by
  have htrans (a b c : String) (hab : decide (a ≤ b) = true) (hbc : decide (b ≤ c) = true) :
      decide (a ≤ c) = true :=
    decide_eq_true (String.le_trans (of_decide_eq_true hab) (of_decide_eq_true hbc))
  have htotal (a b : String) : (decide (a ≤ b) || decide (b ≤ a)) = true := by
    simpa using String.le_total a b
  exact (List.pairwise_mergeSort htrans htotal k.keys.names).imp of_decide_eq_true

end KeyValueMapping

section KeyValues

variable {m : Mapping} {owner : Owner} {ownerVar schema key : String} {k : KeyValueMapping}
  {pairs : List (String × Json)} {a : Attachments} {e : Entity} {v w : Variables}

/-- A key that is listed is kept by the type of its entity, and any other one as a value of it. -/
theorem keyEntity_keeps (h : (keyEntity schema k key).outcome v = (.ok e, w)) :
    ∃ typeName contents, k.Kept key typeName contents ∧ e.typeName = typeName ∧
      e.attributes = Multimap.ofPairs contents := by
  obtain ⟨⟨typeName, hkey, rfl⟩ | ⟨custom, hkey, hcustom, rfl⟩, -⟩ := keyEntity_ok h
  · exact ⟨typeName, [], .known hkey, rfl, rfl⟩
  · refine ⟨_, _, .custom hkey hcustom, rfl, ?_⟩
    exact Attributes.add_eq (isValue_quote key).ne_empty

/-- A key that is kept has a place in the schema. -/
theorem KeyValueMapping.Kept.hasPlace {typeName : String} {contents : List (String × String)}
    (h : k.Kept key typeName contents) : k.HasPlace key := by
  cases h with
  | known hkey => exact .inl (Table.isSome_get?_iff.mp (Option.isSome_of_eq_some hkey))
  | custom _ hcustom => exact .inr (Option.isSome_of_eq_some hcustom)

/-- There is an entity for a key exactly if there is a place for it. Otherwise the keys that there
are places for are listed. -/
theorem keyEntity_judged (schema key : String) (k : KeyValueMapping) (v : Variables) :
    (k.HasPlace key ∧ ∃ e w, (keyEntity schema k key).outcome v = (.ok e, w)) ∨
      (¬k.HasPlace key ∧ (keyEntity schema k key).outcome v =
        (.error (.mapping (.unsupportedKey schema key k.validKeys)), v)) := by
  rw [keyEntity, KeyValueMapping.HasPlace, ← Table.isSome_get?_iff]
  cases hkey : k.keys.get? key with
  | some typeName => exact .inl ⟨.inl rfl, _, _, rfl⟩
  | none =>
    cases hcustom : k.custom with
    | some custom => exact .inl ⟨.inr rfl, _, _, rfl⟩
    | none => exact .inr ⟨by simp, rfl⟩

/-- Pairs that are converted are kept, each by one helper and in order. -/
theorem convertPairs_keeps (hprimitive : k.valueType.isPrimitive = true)
    (h : (convertPairs m owner ownerVar schema k pairs).outcome v = (.ok a, w)) :
    a.links = [] ∧ List.Forall₂ (k.KeepsPair ownerVar) pairs a.helpers := by
  have helement : k.valueType.elementType.isPrimitive = true := by
    obtain ⟨s, hs⟩ := ValueType.isPrimitive_iff.mp hprimitive
    rw [hs]
    rfl
  induction pairs generalizing v a with
  | nil =>
    simp only [convertPairs, pure_eq_ok] at h
    obtain ⟨rfl, -⟩ := h
    exact ⟨rfl, .nil⟩
  | cons pair rest ih =>
    obtain ⟨key, raw⟩ := pair
    obtain ⟨c, entity, others, u, u', hvalue, -, hentity, hothers, rfl⟩ := convertPairs_cons_ok h
    obtain ⟨typeName, contents, hkept, htype, hcontents⟩ := keyEntity_keeps hentity
    obtain ⟨hlinks, hrest⟩ := ih hothers
    refine ⟨hlinks, .cons ⟨⟨hkept.hasPlace, ?_⟩, typeName, contents, hkept, ?_⟩ hrest⟩
    · exact (convertValue_literals helement).mp ⟨c, u, hvalue⟩
    · rw [convertValue_renders hvalue]
      -- the key comes first if the entity has a name for it, and then the value
      constructor
      case typeName => exact htype
      case contents =>
        rw [Multimap.ofPairs, List.foldl_append,
          ← Attributes.addAll_eq fun _ => ValueType.literal_ne_empty]
        exact congrArg (Attributes.addAll · _ _) hcontents
      all_goals rfl

/-- A scalar is converted if it fits, and fails as it does not fit. -/
theorem convertValue_scalar_judged (m : Mapping) (owner : Owner) (s : Scalar) (raw : Json)
    (v : Variables) :
    ((ValueType.scalar s).check raw = .ok () ∧
      ∃ literal, (convertValue m owner (.scalar s) raw).outcome v =
        (.ok { literals := [literal] }, v)) ∨
    ∃ defect, (ValueType.scalar s).check raw = .error defect ∧
      (convertValue m owner (.scalar s) raw).outcome v = (.error (.value defect), v) := by
  rw [ValueType.check, convertValue]
  cases hread : Literal.read s raw with
  | ok literal => exact .inl ⟨rfl, literal.text, rfl⟩
  | error defect => exact .inr ⟨defect, rfl, rfl⟩

/-- The first pair of a map is kept, and the others decide, or it is refused. -/
theorem convertPairs_step (m : Mapping) (owner : Owner) (ownerVar schema : String)
    (hprimitive : k.valueType.isPrimitive = true) (key : String) (raw : Json)
    (rest : List (String × Json)) (v : Variables) :
    (k.Takes (key, raw) ∧ ∃ first u,
      (convertPairs m owner ownerVar schema k ((key, raw) :: rest)).outcome v =
        (do return first ++ (← convertPairs m owner ownerVar schema k rest) :
          Naming PropertyDefect Attachments).outcome u) ∨
    ∃ defect w, k.Refuses schema key raw defect ∧
      (convertPairs m owner ownerVar schema k ((key, raw) :: rest)).outcome v =
        (.error defect, w) := by
  -- values are converted before keys, so a value that does not fit is reported first
  obtain ⟨s, hs⟩ := ValueType.isPrimitive_iff.mp hprimitive
  rcases convertValue_scalar_judged m owner s raw v with
    ⟨hfits, literal, hvalue⟩ | ⟨defect, hcheck, hvalue⟩
  · rw [← hs] at hvalue hfits
    have honly : onlyLiterals k.valueType { literals := [literal] } = .ok [literal] := rfl
    rcases keyEntity_judged schema key k v with ⟨hplace, e, u, hentity⟩ | ⟨hplace, hentity⟩
    · refine .inl ⟨⟨hplace, hfits⟩, .helper (e.addAttributes k.valueAttribute [literal])
        (k.relation.tie (Variables.nameOf u.issued) ownerVar e.var), ⟨u.issued + 1⟩, ?_⟩
      simp only [convertPairs, ofValue, Except.mapError, outcome_bind, outcome_ofExcept,
        outcome_fresh, hvalue, honly, hentity]
      rfl
    · refine .inr ⟨_, v, .key hfits hplace k.validKeys_perm k.validKeys_sorted, ?_⟩
      simp only [convertPairs, ofValue, Except.mapError, outcome_bind, outcome_ofExcept, hvalue,
        honly, hentity]
  · rw [← hs] at hvalue hcheck
    refine .inr ⟨.value defect, v, .value hcheck, ?_⟩
    simp only [convertPairs, outcome_bind, hvalue]

/-- A map is converted if it can hold all pairs, and the first that it cannot hold makes it fail. -/
theorem convertPairs_judged (m : Mapping) (owner : Owner) (ownerVar schema : String)
    (hprimitive : k.valueType.isPrimitive = true) (pairs : List (String × Json)) (v : Variables) :
    ((∀ pair ∈ pairs, k.Takes pair) ∧
      ∃ a w, (convertPairs m owner ownerVar schema k pairs).outcome v = (.ok a, w)) ∨
    ∃ before key raw after defect w, pairs = before ++ (key, raw) :: after ∧
      (∀ pair ∈ before, k.Takes pair) ∧ k.Refuses schema key raw defect ∧
      (convertPairs m owner ownerVar schema k pairs).outcome v = (.error defect, w) := by
  induction pairs generalizing v with
  | nil =>
    rw [convertPairs]
    exact .inl ⟨fun _ hmem => absurd hmem List.not_mem_nil, _, v, rfl⟩
  | cons pair rest ih =>
    obtain ⟨key, raw⟩ := pair
    rcases convertPairs_step m owner ownerVar schema hprimitive key raw rest v with
      ⟨htakes, first, u, hrun⟩ | ⟨defect, w, hrefuses, hrun⟩
    · rw [hrun, outcome_bind]
      rcases ih u with ⟨hall, a, w, hrest⟩ | ⟨before, key', raw', after, defect, w, rfl, hbefore,
        hrefuses, hrest⟩
      · rw [hrest]
        exact .inl ⟨List.forall_mem_cons.mpr ⟨htakes, hall⟩, first ++ a, w, rfl⟩
      · rw [hrest]
        exact .inr ⟨(key, raw) :: before, key', raw', after, defect, w, rfl,
          List.forall_mem_cons.mpr ⟨htakes, hbefore⟩, hrefuses, rfl⟩
    · exact .inr ⟨[], key, raw, rest, defect, w, rfl, fun _ hmem => absurd hmem List.not_mem_nil,
        hrefuses, hrun⟩

theorem KeyValueMapping.Refuses.not_takes {raw : Json} {defect : PropertyDefect}
    (h : k.Refuses schema key raw defect) : ¬k.Takes (key, raw) := by
  intro htakes
  cases h with
  | value hcheck => cases htakes.fits.symm.trans hcheck
  | key _ hplace => exact hplace htakes.place

end KeyValues

/-! ## Maps -/

section Maps

variable {m : Mapping} {owner : Owner} {ownerVar schema : String} {k : KeyValueMapping}

/-- A dictionary of an owner with a variable is what its entries are. -/
theorem convertValue_dictionary (hvar : owner.reference.var = some ownerVar)
    (entries : List (String × Json)) (v : Variables) :
    (convertValue m owner .dictionary (.object entries)).outcome v =
      (do return { attachments := ← convertEntries m owner ownerVar entries } :
        Naming PropertyDefect Converted).outcome v := by
  rw [convertValue, outcome_bind, Reference.requireVar, hvar]
  rfl

/-- A key-value map of an owner with a variable is what its pairs are. -/
theorem convertValue_keyValue (hk : m.keyValues.get? schema = some k)
    (hvar : owner.reference.var = some ownerVar) (pairs : List (String × Json)) (v : Variables) :
    (convertValue m owner (.keyValue schema) (.object pairs)).outcome v =
      (do return { attachments := ← convertPairs m owner ownerVar schema k pairs } :
        Naming PropertyDefect Converted).outcome v := by
  rw [convertValue, Mapping.keyValue, hk, outcome_bind, Reference.requireVar, hvar]
  rfl

/-- Members that are kept by helpers are kept by the value they are members of. -/
theorem Converted.keeps_of_forall₂ {a : Attachments} {kept : String × Json → Helper → Prop}
    {members : List (String × Json)} (h : a.links = [] ∧ List.Forall₂ kept members a.helpers) :
    ({ attachments := a } : Converted).Keeps kept members where
  literals := rfl
  links := by
    rw [Attachments.linkStatement, h.1]
    rfl
  helpers := ⟨a.helpers, rfl, h.2⟩

/-- A dictionary keeps its entries if it is converted. -/
theorem convertValue_keeps_entries (hvar : owner.reference.var = some ownerVar)
    (entries : List (String × Json)) (v : Variables) :
    let run := (convertValue m owner .dictionary (.object entries)).outcome v;
    ((∃ c w, run = (.ok c, w)) ↔ ∀ entry ∈ entries, ∃ type item, m.Holds entry.2 type item) ∧
    ∀ c w, run = (.ok c, w) → c.Keeps (m.KeepsEntry owner ownerVar) entries := by
  simp only [convertValue_dictionary hvar, bind_eq_ok, pure_eq_ok]
  constructor
  · rw [← convertEntries_succeeds_iff m owner ownerVar entries v]
    constructor
    · rintro ⟨c, w, a, u, hentries, -⟩
      exact ⟨a, u, hentries⟩
    · rintro ⟨a, u, hentries⟩
      exact ⟨_, _, a, u, hentries, rfl, rfl⟩
  · rintro c w ⟨a, u, hentries, rfl, -⟩
    exact Converted.keeps_of_forall₂ (convertEntries_keeps hentries)

/-- A map keeps its pairs if it is converted. -/
theorem convertValue_keeps_pairs (hk : m.keyValues.get? schema = some k)
    (hprimitive : k.valueType.isPrimitive = true) (hvar : owner.reference.var = some ownerVar)
    (pairs : List (String × Json)) (v : Variables) :
    let run := (convertValue m owner (.keyValue schema) (.object pairs)).outcome v;
    ((∃ c w, run = (.ok c, w)) ↔ ∀ pair ∈ pairs, k.Takes pair) ∧
    (∀ c w, run = (.ok c, w) → c.Keeps (k.KeepsPair ownerVar) pairs) ∧
    ∀ defect w, run = (.error defect, w) →
      ∃ before key raw after, pairs = before ++ (key, raw) :: after ∧
        (∀ pair ∈ before, k.Takes pair) ∧ k.Refuses schema key raw defect := by
  simp only [convertValue_keyValue hk hvar]
  rcases convertPairs_judged m owner ownerVar schema hprimitive pairs v with
    ⟨hall, a, w, hpairs⟩ | ⟨before, key, raw, after, defect, w, rfl, hbefore, hrefuses, hfails⟩
  · rw [outcome_bind, hpairs]
    refine ⟨⟨fun _ => hall, fun _ => ⟨_, w, rfl⟩⟩, ?_, nofun⟩
    rintro c w' hrun
    obtain ⟨rfl, -⟩ := pure_eq_ok.mp hrun
    exact Converted.keeps_of_forall₂ (convertPairs_keeps hprimitive hpairs)
  · rw [outcome_bind, hfails]
    refine ⟨⟨nofun, fun hall => ?_⟩, nofun, ?_⟩
    · exact absurd (hall _ (by simp)) hrefuses.not_takes
    · rintro defect' w' hrun
      cases hrun
      exact ⟨before, key, raw, after, rfl, hbefore, hrefuses⟩

end Maps

/-- **Maps are kept whole or not at all.** Under a mapping that was accepted, let a map be converted
for an owner with a variable. As a dictionary it is converted exactly if the dictionary can hold
every value, and as a map of a key-value schema exactly if the schema takes every pair. Then one
statement inserts a helper with its tie for each member, in order, and there is nothing else. If it
is not converted as a map of the schema, then some pair is refused, and those before it are not. -/
theorem Mapping.keeps_pairs {sources : Sources} {m : Mapping} (hm : assemble sources = .ok m)
    {owner : Owner} {ownerVar : String} (hvar : owner.reference.var = some ownerVar)
    (members : List (String × Json)) (v : Variables) :
    (let run := (convertValue m owner .dictionary (.object members)).outcome v;
      ((∃ c w, run = (.ok c, w)) ↔ ∀ entry ∈ members, ∃ type item, m.Holds entry.2 type item) ∧
      ∀ c w, run = (.ok c, w) → c.Keeps (m.KeepsEntry owner ownerVar) members) ∧
    ∀ schema k, m.keyValues.get? schema = some k →
      let run := (convertValue m owner (.keyValue schema) (.object members)).outcome v;
      ((∃ c w, run = (.ok c, w)) ↔ ∀ pair ∈ members, k.Takes pair) ∧
      (∀ c w, run = (.ok c, w) → c.Keeps (k.KeepsPair ownerVar) members) ∧
      ∀ defect w, run = (.error defect, w) →
        ∃ before key raw after, members = before ++ (key, raw) :: after ∧
          (∀ pair ∈ before, k.Takes pair) ∧ k.Refuses schema key raw defect := by
  refine ⟨convertValue_keeps_entries hvar members v, fun schema k hk => ?_⟩
  have hprimitive : k.valueType.isPrimitive = true := by
    obtain ⟨d, -, rfl, -, -, hdefects⟩ := assemble_eq_ok.mp hm
    obtain ⟨-, -, -, hkeyValues, -⟩ := Documents.defects_eq_nil_iff.mp hdefects
    exact ValueType.isPrimitive_iff.mpr (hkeyValues schema k (Table.mem_of_get? hk))
  exact convertValue_keeps_pairs hk hprimitive hvar members v

/-- The documents of a small mapping: files have hashes of two kinds, and dictionaries keep keys and
values under the same name. -/
def pairDocuments : Documents where
  keyValues :=
    [("hash",
      { valueType := .scalar .string
        valueAttribute := "digest"
        keys := [("SHA-1", "sha1"), ("MD5", "md5")]
        relation := ⟨"hashing", "hashed", "hash"⟩ })]
  dictionary :=
    { keyAttribute := "text"
      propertyAttribute := "name"
      relation := ⟨"has-dictionary", "owner", "item"⟩
      items := [("long", ⟨"long-item", "number"⟩), ("string", ⟨"string-item", "text"⟩)] }

/-- A dictionary is kept with a list and an empty list in it. Hashes are refused for the second, as
its kind is not known. -/
theorem Mapping.keeps_pairs_files :
    let owner : Owner := ⟨.known (some "file--1") (some "file") (some "file"), "labels"⟩
    let entries := [("size", .integer 1), ("names", .array [.string "a", .string "b"]),
      ("none", .array [])]
    let hashes := [("MD5", .string "a"), ("CRC", .string "b"), ("SHA-1", .bool true)]
    ∃ m k c w valid w', ofDocuments pairDocuments = .ok m ∧ m.keyValues.get? "hash" = some k ∧
      owner.reference.var = some "file" ∧
      (convertValue m owner .dictionary (.object entries)).outcome {} = (.ok c, w) ∧
      c.attachments.helpers.map (fun h => h.entity.attributes) =
        [[("text", [quote "size"]), ("number", ["1"])],
          [("text", [quote "names", quote "a", quote "b"])], [("text", [quote "none"])]] ∧
      c.Keeps (m.KeepsEntry owner "file") entries ∧
      (convertValue m owner (.keyValue "hash") (.object hashes)).outcome {} =
        (.error (.mapping (.unsupportedKey "hash" "CRC" valid)), w') ∧
      ∃ before key raw after, hashes = before ++ (key, raw) :: after ∧
        (∀ pair ∈ before, k.Takes pair) ∧
        k.Refuses "hash" key raw (.mapping (.unsupportedKey "hash" "CRC" valid)) := by
  intro owner entries hashes
  have hrun : ∃ m k c w valid w', ofDocuments pairDocuments = .ok m ∧
      m.keyValues.get? "hash" = some k ∧ owner.reference.var = some "file" ∧
      (convertValue m owner .dictionary (.object entries)).outcome {} = (.ok c, w) ∧
      c.attachments.helpers.map (fun h => h.entity.attributes) =
        [[("text", [quote "size"]), ("number", ["1"])],
          [("text", [quote "names", quote "a", quote "b"])], [("text", [quote "none"])]] ∧
      (convertValue m owner (.keyValue "hash") (.object hashes)).outcome {} =
        (.error (.mapping (.unsupportedKey "hash" "CRC" valid)), w') :=
    ⟨_, _, _, _, _, _, rfl, rfl, rfl, rfl, by decide +kernel, rfl⟩
  obtain ⟨m, k, c, w, valid, w', hm, hk, hvar, hentries, hfiled, hhashes⟩ := hrun
  have hkept := (keeps_pairs hm hvar entries {}).1.2 c w hentries
  have hrefused := ((keeps_pairs hm hvar hashes {}).2 "hash" k hk).2.2 _ w' hhashes
  exact ⟨m, k, c, w, valid, w', hm, hk, hvar, hentries, hfiled, hkept, hhashes, hrefused⟩

/-- The keys of a dictionary are dropped if the attribute for them has no name. Then dictionaries
with different keys are kept as the same. -/
theorem Mapping.keeps_no_keys :
    let documents := { pairDocuments with
      dictionary := { pairDocuments.dictionary with keyAttribute := "" } }
    let owner : Owner := ⟨.known (some "file--1") (some "file") (some "file"), "sizes"⟩
    let sizes (key : String) : List (String × Json) := [(key, .integer 1)]
    ∃ m c w, ofDocuments documents = .ok m ∧ owner.reference.var = some "file" ∧
      (convertValue m owner .dictionary (.object (sizes "width"))).outcome {} = (.ok c, w) ∧
      (convertValue m owner .dictionary (.object (sizes "height"))).outcome {} = (.ok c, w) ∧
      c.attachments.helpers.map (fun h => h.entity.attributes) = [[("number", ["1"])]] ∧
      ¬List.Forall₂ (fun entry h =>
        quote entry.1 ∈ Attributes.under h.entity.attributes m.dictionary.keyAttribute)
        (sizes "width") c.attachments.helpers := by
  refine ⟨_, _, _, rfl, rfl, rfl, rfl, by decide +kernel, fun hkept => ?_⟩
  obtain ⟨hkey, -⟩ := List.forall₂_cons.mp hkept
  revert hkey
  decide +kernel

end ThreatGraph
