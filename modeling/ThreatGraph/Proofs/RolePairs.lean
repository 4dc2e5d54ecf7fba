import ThreatGraph.Proofs.Acceptance
import ThreatGraph.Proofs.Resolution

/-!
# Pairs of roles

The entry of a reference is named by two roles with two colons between them. A mapping is checked
for the colons only, and a conversion asks for characters before and after them. So under a mapping
that was accepted every such name can be cut, but a name that begins or ends at the colons is
refused when the first value comes along. `rolePairs_of_accepted` says so of entries and of what
conversions report, and `rolePair_refused` shows one of these names.

A report comes from a value that was converted under an entry (`Explains`); it is followed from the
conversion of the object down to that value, where the reasons are those of `Mapping.FailsAt`.
-/

namespace ThreatGraph

open Naming

variable {m : Mapping} {strict : Bool} {object : Members}

/-- A name is a pair of roles exactly if neither side of its first colons is empty. -/
theorem Stix.rolePair?_of_cut? {name ownerRole targetRole : String}
    (h : Text.cut? "::" name = some (ownerRole, targetRole)) :
    rolePair? name =
      if ownerRole = "" ∨ targetRole = "" then none else some (ownerRole, targetRole) := by
  rw [rolePair?, h]
  simp only [Bool.or_eq_true, String.isEmpty_iff]

/-! ## Failures that are reported -/

/-- A value under an attribute entry of the mapping fails. -/
def Mapping.FailsEntry (m : Mapping) (defect : PropertyDefect) : Prop :=
  ∃ info raw, m.HasAttribute info ∧ m.FailsAt ⟨info.name, info.valueType, raw⟩ defect

/-- The conversion of an object ends with the defect, or skips a property because of it. -/
def Mapping.Reports (m : Mapping) (strict : Bool) (object : Members) (defect : MappingDefect) :
    Prop :=
  convertObject m strict object = .error (.mapping defect) ∨
    ∃ c label, convertObject m strict object = .ok c ∧
      ⟨label, .failed (.mapping defect)⟩ ∈ c.skipped

namespace Subject

variable {s : Subject} {self : Reference} {v w : Variables} {c : Collected}

/-- All failures among the properties are those of values under entries. -/
def Explains (s : Subject) (skipped : List Skipped) : Prop :=
  ∀ label defect, ⟨label, .failed defect⟩ ∈ skipped → s.mapping.FailsEntry defect

theorem Explains.append {first others : List Skipped} (h : s.Explains first)
    (h' : s.Explains others) : s.Explains (first ++ others) := by
  intro label defect hmem
  rcases List.mem_append.mp hmem with hmem | hmem
  · exact h label defect hmem
  · exact h' label defect hmem

theorem Explains.nothing : s.Explains [] := by
  intro label defect hmem
  exact absurd hmem List.not_mem_nil

/-- A property is reported for what its entry is converted to. -/
theorem property_explains {label : String} {info : Option AttributeInfo} {raw : Json}
    (hinfo : ∀ i ∈ info, s.mapping.HasAttribute i)
    (h : (s.property self label info raw).outcome v = (.ok c, w)) : s.Explains c.skipped := by
  rcases property_ok h with
    ⟨-, rfl, -⟩ | ⟨i, converted, -, -, rfl⟩ | ⟨i, defect, rfl, -, hfails, rfl⟩
  · intro label' defect' hmem
    cases List.mem_singleton.mp hmem
  · exact .nothing
  · intro label' defect' hmem
    cases List.mem_singleton.mp hmem
    have hfails := convertValue_failsAt _ _ _ v defect (congrArg Prod.fst hfails)
    exact ⟨i, raw, hinfo i rfl, hfails⟩

theorem propertiesBy_explains {entry : String → Except MappingDefect (Option AttributeInfo)}
    {label : String → String}
    (hentry : ∀ name info, entry name = .ok (some info) → s.mapping.HasAttribute info)
    {members : Members} (h : (s.propertiesBy self entry label members).outcome v = (.ok c, w)) :
    s.Explains c.skipped := by
  induction members generalizing v c with
  | nil =>
    obtain ⟨rfl, -⟩ := pure_eq_ok.mp h
    exact .nothing
  | cons member rest ih =>
    obtain ⟨info, first, others, u, hanswer, hfirst, hothers, rfl⟩ := propertiesBy_cons_ok h
    refine .append (property_explains ?_ hfirst) (ih hothers)
    rintro i rfl
    exact hentry _ i hanswer

theorem properties_explains {roleplayers : List String} {extensions : Option Members}
    (h : (s.properties self roleplayers extensions).outcome v = (.ok c, w)) :
    s.Explains c.skipped := by
  obtain ⟨own, u, relevant, hown, -, hrest⟩ := properties_eq_ok.mp h
  have hfirst := propertiesBy_explains (fun _ _ h => .of_attribute? h) hown
  rcases hrest with ⟨-, rfl, -⟩ | ⟨name, members, more, -, -, hmore, rfl⟩
  · exact hfirst
  · exact hfirst.append (propertiesBy_explains (fun _ _ h => .of_extensionAttribute? h) hmore)

theorem draft_explains {objectClass : ObjectClass} {d : Draft} {skipped : List Skipped}
    (h : (s.draft objectClass).outcome v = (.ok (d, skipped), w)) : s.Explains skipped := by
  obtain ⟨extensions, typeName, -, -, h⟩ := draft_eq_ok.mp h
  split at h
  · obtain ⟨roleplayers, players, u, c, -, -, -, hc, hd⟩ := relationDraft_eq_ok.mp h
    obtain ⟨-, rfl⟩ := Prod.mk.inj hd
    exact properties_explains hc
  · obtain ⟨c, hc, hd⟩ := entityDraft_eq_ok.mp h
    obtain ⟨-, rfl⟩ := Prod.mk.inj hd
    exact properties_explains hc

end Subject

/-- Whatever the mapping, a property is skipped because it has no entry or because its value failed
under its entry. -/
theorem convertObject_explains {c : Conversion} (h : convertObject m strict object = .ok c)
    {label : String} {defect : PropertyDefect} (hmem : ⟨label, .failed defect⟩ ∈ c.skipped) :
    m.FailsEntry defect := by
  obtain ⟨s, hs, h⟩ := convertObject_ok h
  obtain ⟨_, _, -, -, rfl⟩ := Subject.identify_eq_ok.mp hs
  rcases Subject.convert_ok h with ⟨-, rfl⟩ | ⟨_, d, skipped, w, statements, -, hdraft, -, rfl⟩
  · exact absurd hmem List.not_mem_nil
  · exact Subject.draft_explains hdraft label defect hmem

/-- Under a mapping that was accepted, names of references that are reported to be no pairs of roles
are reported for values under entries. -/
theorem Mapping.Reports.failsEntry {sources : Sources} (hm : Mapping.assemble sources = .ok m)
    {name : String} (h : m.Reports strict object (.missing (.rolePair name))) :
    m.FailsEntry (.mapping (.missing (.rolePair name))) := by
  rcases h with h | ⟨c, label, h, hmem⟩
  · have hconsistent := Mapping.consistent_of_assemble hm
    rcases convertObject_error h with ⟨rejection, -, hrejected⟩ | ⟨s, hs, hconvert⟩
    · cases hrejected
    obtain ⟨_, _, -, htype, rfl⟩ := Subject.identify_eq_ok.mp hs
    have htext := Subject.requiredText_eq_ok htype
    generalize hdefect : ObjectDefect.mapping (.missing (.rolePair name)) = defect at hconvert
    cases Subject.convert_fails hconsistent htext hconvert with
    | object hobject =>
      subst hdefect
      exact hobject.elim
    | players _ hplayers =>
      subst hdefect
      exact hplayers.elim
    | @property label info raw defect _ hfails hinfo =>
      cases defect with
      | value => cases hdefect
      | mapping defect =>
        obtain rfl := ObjectDefect.mapping.inj hdefect
        exact ⟨info, raw, hinfo, hfails⟩
  · exact convertObject_explains h hmem

/-! ## Names of references -/

/-- **Names of references can be cut, but not always into two roles.** Under a mapping that is read
from texts, the name of every entry whose values are references has colons at which it is cut, and
it is a pair of roles exactly if there are characters on both sides. A conversion, strict or
lenient, reports of no other name that it is no pair of roles. -/
theorem rolePairs_of_accepted {texts : Table String} (hm : Mapping.ofTexts texts = .ok m) :
    (∀ info typeName, m.HasAttribute info → info.valueType.elementType = .relation typeName →
      ∃ ownerRole targetRole, Text.cut? "::" info.name = some (ownerRole, targetRole) ∧
        Stix.rolePair? info.name =
          if ownerRole = "" ∨ targetRole = "" then none else some (ownerRole, targetRole)) ∧
    ∀ strict object name, m.Reports strict object (.missing (.rolePair name)) →
      ∃ info typeName ownerRole targetRole, m.HasAttribute info ∧ info.name = name ∧
        info.valueType.elementType = .relation typeName ∧
        Text.cut? "::" name = some (ownerRole, targetRole) ∧
        (ownerRole = "" ∨ targetRole = "") := by
  have hresolved := Mapping.resolved_of_texts hm
  -- what an accepted mapping guarantees is that the two colons are there
  have hcut : ∀ info typeName, m.HasAttribute info →
      info.valueType.elementType = .relation typeName →
      ∃ ownerRole targetRole, Text.cut? "::" info.name = some (ownerRole, targetRole) := by
    intro info typeName hinfo htype
    obtain ⟨⟨ownerRole, targetRole⟩, hcut⟩ :=
      Option.isSome_iff_exists.mp (hresolved.relation hinfo htype)
    exact ⟨ownerRole, targetRole, hcut⟩
  constructor
  · intro info typeName hinfo htype
    obtain ⟨ownerRole, targetRole, hcut⟩ := hcut info typeName hinfo htype
    exact ⟨ownerRole, targetRole, hcut, Stix.rolePair?_of_cut? hcut⟩
  · intro strict object name hreports
    obtain ⟨info, raw, hinfo, hfails⟩ := hreports.failsEntry hm
    obtain ⟨hnone, entry, typeName, hentry, rfl, htype⟩ :=
      hfails.leaves hresolved (.of_entry hresolved hinfo raw)
    obtain ⟨ownerRole, targetRole, hcut⟩ := hcut entry typeName hentry htype
    refine ⟨entry, typeName, ownerRole, targetRole, hentry, rfl, htype, hcut, ?_⟩
    -- so a name fails only where one of the roles is empty
    rw [Stix.rolePair?_of_cut? hcut] at hnone
    by_contra hsome
    rw [if_neg hsome] at hnone
    cases hnone

/-- Tools with a maker that has no role. -/
def makerlessTexts : Table String :=
  toolTexts "\x7b\"maker\": [\"made::\", \"relation:making\"]\x7d" "\x7b\x7d"

/-- The mapping that they state. -/
def makerlessMapping : Mapping where
  classes := [("tool", .domain)]
  objects :=
    [("tool",
      { typeName := "tool", attributes := [("maker", ⟨"made::", .relation "making", none⟩)] })]
  common := []
  composites := []
  roles := []
  keyValues := []
  dictionary := ⟨"key", "property", ⟨"entry", "holder", "held"⟩, []⟩

theorem ofTexts_makerless : Mapping.ofTexts makerlessTexts = .ok makerlessMapping := by cbv

/-- A tool with a maker. -/
def madeTool : Members :=
  [("id", .string "tool--1"), ("type", .string "tool"), ("maker", .string "tool--2")]

/-- The maker is refused, and the reason is an entry whose name ends at the colons. -/
theorem rolePairs_of_accepted_makerless :
    Mapping.ofTexts makerlessTexts = .ok makerlessMapping ∧
      makerlessMapping.Reports true madeTool (.missing (.rolePair "made::")) ∧
      ∃ info typeName ownerRole targetRole, makerlessMapping.HasAttribute info ∧
        info.name = "made::" ∧ info.valueType.elementType = .relation typeName ∧
        Text.cut? "::" "made::" = some (ownerRole, targetRole) ∧
        (ownerRole = "" ∨ targetRole = "") := by
  have hfails : convertObject makerlessMapping true madeTool =
      .error (.mapping (.missing (.rolePair "made::"))) := by cbv
  have hreports := (rolePairs_of_accepted ofTexts_makerless).2 true madeTool "made::" (.inl hfails)
  exact ⟨ofTexts_makerless, .inl hfails, hreports⟩

/-- Not every mapping that is accepted names its references by pairs of roles. -/
theorem rolePair_refused :
    ¬ ∀ texts m info typeName, Mapping.ofTexts texts = .ok m → m.HasAttribute info →
      info.valueType.elementType = .relation typeName → Stix.rolePair? info.name ≠ none := by
  intro h
  have hinfo : makerlessMapping.HasAttribute ⟨"made::", .relation "making", none⟩ :=
    .object List.mem_cons_self List.mem_cons_self
  exact h _ _ _ _ ofTexts_makerless hinfo rfl (by decide)

end ThreatGraph
