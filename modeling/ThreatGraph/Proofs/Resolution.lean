import Mathlib
import ThreatGraph.Proofs.Agreement
import ThreatGraph.Proofs.Entries
import ThreatGraph.Proofs.Failure

/-!
# References lead somewhere

Attribute entries refer to schemas, and the fields of a nested object are declared by entries again,
maybe of the schema that they stand in. A mapping that is read from texts has been checked: every
reference in it leads to a schema (`Mapping.Resolved`). So the conversion of a value, however deep,
goes from what an entry declares to what an entry declares (`Mapping.Declares`), or to a single
literal, and it never stops for want of a schema. `convertValue_resolved` says what is left.

The invariant is that a part is declared by an entry or is primitive, and it goes from a part to the
parts inside it (`Declares.has`). Where a conversion stops, the declaration says what it asked for,
and `Resolved` that it is there (`Stops.leaves`).
-/

namespace ThreatGraph

open Naming

variable {m : Mapping}

/-! ## Mappings that were accepted -/

namespace Mapping

/-- What the entries of a mapping refer to is there, and its types are not nested any further than
conversions can follow. -/
structure Resolved (m : Mapping) : Prop where
  /-- no list has lists for elements -/
  flat : ∀ {info}, m.HasAttribute info → info.valueType.Flat
  /-- schemas of nested objects are defined -/
  composite : ∀ {info schema}, m.HasAttribute info →
    info.valueType.elementType = .composite schema → m.composites.get? schema ≠ none
  /-- key-value schemas are defined -/
  keyValue : ∀ {info schema}, m.HasAttribute info →
    info.valueType.elementType = .keyValue schema → m.keyValues.get? schema ≠ none
  /-- references are kept under names with two colons -/
  relation : ∀ {info typeName}, m.HasAttribute info →
    info.valueType.elementType = .relation typeName → Text.contains "::" info.name = true
  /-- the values of key-value schemas are single literals -/
  literal : ∀ {schema k}, m.keyValues.get? schema = some k → ∃ scalar, k.valueType = .scalar scalar

/-- An attribute entry of the mapping is one of the documents. -/
theorem HasAttribute.of_mapping {d : Documents} {info : AttributeInfo}
    (h : d.mapping.HasAttribute info) : d.HasAttribute info := by
  cases h with
  | common hinfo => exact .common hinfo
  | object ho hinfo => exact .object ho hinfo
  | extension ho he hinfo => exact .extension ho he hinfo
  | composite hc hinfo => exact .composite hc hinfo

/-- A mapping that is read from texts is resolved, as its documents agree. -/
theorem resolved_of_texts {texts : Table String} (h : ofTexts texts = .ok m) : m.Resolved := by
  have hflat : ∀ {info}, m.HasAttribute info → info.valueType.Flat :=
    fun hinfo => forall_entries_of_texts h .flat hinfo
  obtain ⟨d, -, hagree, rfl⟩ := ofTexts_eq_ok_iff.mp h
  refine ⟨hflat, ?_, ?_, ?_, ?_⟩
  · intro info schema hinfo htype
    have hschema := (hagree.attributes info hinfo.of_mapping).composite schema htype
    exact Option.isSome_iff_ne_none.mp (Table.isSome_get?_iff.mpr hschema)
  · intro info schema hinfo htype
    have hschema := (hagree.attributes info hinfo.of_mapping).keyValue schema htype
    exact Option.isSome_iff_ne_none.mp (Table.isSome_get?_iff.mpr hschema)
  · intro info typeName hinfo htype
    have hname := (hagree.attributes info hinfo.of_mapping).relation typeName htype
    exact Text.contains_iff.mpr hname
  · intro schema k hk
    exact hagree.keyValues schema k (Table.mem_of_get? hk)

/-! ## Parts that are declared -/

/-- The part is converted as an attribute entry of the mapping declares, or as a literal. -/
structure Declares (m : Mapping) (p : Part) : Prop where
  flat : p.type.Flat
  entry : p.type.elementType.isPrimitive = true ∨
    ∃ info, m.HasAttribute info ∧ info.name = p.name ∧
      info.valueType.elementType = p.type.elementType

/-- What an entry says of a value is declared. -/
theorem Declares.of_entry (hm : m.Resolved) {info : AttributeInfo} (hinfo : m.HasAttribute info)
    (raw : Json) : m.Declares ⟨info.name, info.valueType, raw⟩ :=
  ⟨hm.flat hinfo, .inr ⟨info, hinfo, rfl, rfl⟩⟩

/-- Whatever has the type of a scalar is declared. -/
theorem Declares.of_primitive {p : Part} (h : p.type.elementType.isPrimitive = true) :
    m.Declares p := by
  refine ⟨?_, .inl h⟩
  obtain ⟨scalar, hscalar⟩ := ValueType.isPrimitive_iff.mp h
  rw [ValueType.Flat, hscalar]
  rfl

/-- A conversion goes from what is declared to what is declared. -/
theorem Declares.has (hm : m.Resolved) {p q : Part} (hp : m.Declares p) (h : m.Has p q) :
    m.Declares q := by
  cases h with
  | @item name element items item hitem =>
    have helement := ValueType.elementType_of_flat hp.flat
    have hflat : element.Flat := by
      rw [ValueType.Flat, helement]
      exact hp.flat
    refine ⟨hflat, ?_⟩
    change element.elementType.isPrimitive = true ∨ _
    rw [helement]
    exact hp.entry
  | field _ hinfo => exact .of_entry hm (.of_compositeAttribute hinfo) _
  | pair _ hk =>
    obtain ⟨scalar, hscalar⟩ := hm.literal (found_eq_ok.mp hk)
    refine .of_primitive ?_
    rw [hscalar]
    rfl
  | entry _ _ hprimitive => exact .of_primitive hprimitive

/-! ## What is left -/

/-- Why the conversion of a value can fail under a mapping that was accepted: the value does not
fit, it refers to an object of a type that is not mapped, it has a field or a key that its schema
does not have, dictionaries keep no values of its type, or the entry of a reference names no pair of
roles. -/
def Leaves (m : Mapping) : PropertyDefect → Prop
  | .value (.nested _) => False
  | .value _ => True
  | .mapping (.missing (.object stixType)) => m.objects.get? stixType = none
  | .mapping (.missing (.compositeField field schema)) =>
    ∃ c, m.composites.get? schema = some c ∧ c.attributes.get? field = none
  | .mapping (.unsupportedKey schema key valid) =>
    ∃ k, m.keyValues.get? schema = some k ∧ k.keys.get? key = none ∧ k.custom = none ∧
      valid = k.validKeys
  | .mapping (.missing (.dictionaryItem tag)) => m.dictionary.items.get? tag = none
  | .mapping (.missing (.rolePair name)) =>
    Stix.rolePair? name = none ∧
      ∃ info typeName, m.HasAttribute info ∧ info.name = name ∧
        info.valueType.elementType = .relation typeName
  | .mapping _ => False

/-- A value that is declared is stopped for a reason that is left. -/
theorem Stops.leaves (hm : m.Resolved) {p : Part} {defect : PropertyDefect}
    (h : m.Stops p defect) (hp : m.Declares p) : m.Leaves defect := by
  have hentry := hp.entry
  -- one case for each way to stop; what is declared is found, which leaves what is in the value
  cases h with
  | @value _ defect hdefect =>
    cases defect with
    | nested type => exact hdefect type rfl
    | _ => trivial
  | nested hk hnot =>
    obtain ⟨scalar, hscalar⟩ := hm.literal hk
    rw [hscalar] at hnot
    cases hnot
  | roles hnone =>
    rcases hentry with hprimitive | ⟨info, hinfo, hname, htype⟩
    · cases hprimitive
    · exact ⟨hnone, info, _, hinfo, hname, htype⟩
  | target _ hnone => exact hnone
  | composite hnone =>
    rcases hentry with hprimitive | ⟨info, hinfo, -, htype⟩
    · cases hprimitive
    · exact hm.composite hinfo htype hnone
  | field _ hc hnone => exact ⟨_, hc, hnone⟩
  | keyValue hnone =>
    rcases hentry with hprimitive | ⟨info, hinfo, -, htype⟩
    · cases hprimitive
    · exact hm.keyValue hinfo htype hnone
  | key _ hk hkey hcustom => exact ⟨_, hk, hkey, hcustom, rfl⟩
  | item _ _ hnone => exact hnone

theorem FailsAt.leaves (hm : m.Resolved) {p : Part} {defect : PropertyDefect}
    (h : m.FailsAt p defect) (hp : m.Declares p) : m.Leaves defect := by
  induction h with
  | here h => exact h.leaves hm hp
  | inside hq _ ih => exact ih (hp.has hm hq)

end Mapping

/-- **References lead somewhere.** Under a mapping that is read from texts, the conversion of any
value under any attribute entry, for any owner, fails only at a part that it leads to and only for
one of the reasons of `Mapping.Leaves`. So no schema that is asked for is undefined, however deep
the value, and no value of a map needs helpers or links of its own. -/
theorem convertValue_resolved {texts : Table String} (hm : Mapping.ofTexts texts = .ok m)
    {info : AttributeInfo} (hinfo : m.HasAttribute info) (reference : Reference) (raw : Json) :
    (convertValue m ⟨reference, info.name⟩ info.valueType raw).FailsBy fun defect =>
      m.FailsAt ⟨info.name, info.valueType, raw⟩ defect ∧ m.Leaves defect := by
  intro v defect h
  have hresolved := Mapping.resolved_of_texts hm
  have hfails := convertValue_failsAt _ _ _ v defect h
  exact ⟨hfails, hfails.leaves hresolved (.of_entry hresolved hinfo raw)⟩

/-- The texts of a small mapping, of tools with these attributes. -/
def toolTexts (attributes composites : String) : Table String :=
  [("classes.json", "[[\"tool\"]]"),
    ("sdos.json", "\x7b\"tool\": [\"tool\", null, \x7b\x7d, " ++ attributes ++ "]\x7d"),
    ("sros.json", "\x7b\x7d"), ("scos.json", "\x7b\x7d"), ("smos.json", "\x7b\x7d"),
    ("common_attributes.json", "\x7b\x7d"), ("composites.json", composites),
    ("sros_roles.json", "\x7b\x7d"), ("key-value-pairs.json", "\x7b\x7d"),
    ("dictionary.json",
      "[\"key\", \"property\", [\"entry\", \"holder\", \"held\"], \x7b\x7d]")]

/-- Tools with phases, which have phases after them. -/
def phaseTexts : Table String :=
  toolTexts "\x7b\"phases\": [\"phases\", \"list:composite:phase\"]\x7d"
    ("\x7b\"phase\": [\"phase\", \x7b\"next\": [\"next\", \"composite:phase\"]\x7d, " ++
      "[\"phasing\", \"whole\", \"part\"]]\x7d")

/-- The entry of the phases of tools. -/
def phasesEntry : AttributeInfo := ⟨"phases", .list (.composite "phase"), none⟩

/-- The mapping that they state. -/
def phaseMapping : Mapping where
  classes := [("tool", .domain)]
  objects := [("tool", { typeName := "tool", attributes := [("phases", phasesEntry)] })]
  common := []
  composites :=
    [("phase",
      { typeName := "phase"
        attributes := [("next", ⟨"next", .composite "phase", none⟩)]
        relation := ⟨"phasing", "whole", "part"⟩ })]
  roles := []
  keyValues := []
  dictionary := ⟨"key", "property", ⟨"entry", "holder", "held"⟩, []⟩

/-- Phases of which the second has others after it, and the last has a size. -/
def sizedPhases : Json :=
  .array [.object [], .object [("next", .object [("next", .object [("size", .string "9")])])]]

/-- The size is the reason why the phases fail. That phases refer to phases is none. -/
theorem convertValue_resolved_phases :
    let owner : Reference := .known (some "tool--1") (some "v0") (some "tool")
    let undefined : PropertyDefect := .mapping (.missing (.compositeField "size" "phase"))
    Mapping.ofTexts phaseTexts = .ok phaseMapping ∧ phaseMapping.HasAttribute phasesEntry ∧
      ((convertValue phaseMapping ⟨owner, phasesEntry.name⟩ phasesEntry.valueType
        sizedPhases).outcome {}).1 = .error undefined ∧
      phaseMapping.FailsAt ⟨phasesEntry.name, phasesEntry.valueType, sizedPhases⟩ undefined ∧
      phaseMapping.Leaves undefined := by
  intro owner undefined
  have hm : Mapping.ofTexts phaseTexts = .ok phaseMapping := by cbv
  have hinfo : phaseMapping.HasAttribute phasesEntry :=
    .object List.mem_cons_self List.mem_cons_self
  have hfails : ((convertValue phaseMapping ⟨owner, phasesEntry.name⟩ phasesEntry.valueType
      sizedPhases).outcome {}).1 = .error undefined := by cbv
  exact ⟨hm, hinfo, hfails, convertValue_resolved hm hinfo owner sizedPhases {} undefined hfails⟩

end ThreatGraph
