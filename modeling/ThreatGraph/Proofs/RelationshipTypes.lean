import ThreatGraph.Proofs.Endpoints
import ThreatGraph.Proofs.Quoting
import ThreatGraph.Proofs.Recognition

/-!
# What relationships call themselves

The type of a relationship is chosen from a vocabulary by what the relationship calls itself, in
lower case. What is outside the vocabulary has one type, and its name is kept as an attribute. So
from the relation one can read what the relationship called itself, up to the case of letters, or up
to the kind of its quotes (`convertObject_kind`). Two names that differ in their quotes only make
one statement, and only texts are kept as names (`convertObject_kind_lost`).

The vocabulary is a table of the built-in mapping, so what is true of all its words is decided once
(`get?_of_mem_vocabulary`); a kind outside of it falls to the entry for all others.
-/

namespace ThreatGraph

open Naming

/-- What a relationship called itself, as it is read from its relation: the type, or the name if it
is outside the vocabulary. -/
def Relation.kind? (r : Relation) : Option String :=
  if r.typeName = Subject.customRelationship then
    ((Multimap.get? r.attributes Subject.relationNameAttribute).bind List.head?).map unquote
  else some r.typeName

/-! ## The vocabulary -/

namespace Builtin

/-- The types by what relationships call themselves. -/
def relationshipTypes : SubtypeTable :=
  relationshipObject.subtypes.getD ⟨"", []⟩

/-- The vocabulary of relationships: what has an entry of its own. -/
def vocabulary : List String :=
  (Table.names relationshipTypes.values).filter (· ≠ SubtypeTable.otherwise)

/-- What is in the vocabulary is a type, and never the one of what is not. -/
theorem get?_of_mem_vocabulary : ∀ kind ∈ vocabulary,
    relationshipTypes.values.get? kind = some kind ∧ kind ≠ Subject.customRelationship := by
  decide +kernel

/-- A type of the vocabulary is stored as itself. -/
theorem resolve?_of_mem_vocabulary {kind : String} (h : kind ∈ vocabulary) :
    relationshipTypes.resolve? kind = some kind := by
  rw [SubtypeTable.resolve?, (get?_of_mem_vocabulary kind h).1]
  rfl

/-- Any other type is stored as a custom one. -/
theorem resolve?_of_not_mem_vocabulary {kind : String} (h : kind ∉ vocabulary) :
    relationshipTypes.resolve? kind = some Subject.customRelationship := by
  have hotherwise : relationshipTypes.values.get? SubtypeTable.otherwise =
      some Subject.customRelationship := by decide +kernel
  rw [SubtypeTable.resolve?, hotherwise]
  rcases hget : relationshipTypes.values.get? kind with _ | typeName
  · rfl
  · have hname : kind ∈ Table.names relationshipTypes.values :=
      List.mem_map_of_mem (Table.mem_of_get? hget)
    have hkind : kind = SubtypeTable.otherwise := by
      by_contra hne
      exact h (List.mem_filter.mpr ⟨hname, decide_eq_true hne⟩)
    rw [hkind, hotherwise] at hget
    rw [← Option.some.inj hget]
    rfl

/-- No entry of the built-in mapping keeps a value as the name of a relation. -/
theorem name_ne_relationName {info : AttributeInfo}
    (h : Documents.builtin.mapping.HasAttribute info) :
    info.name ≠ Subject.relationNameAttribute := by
  have hcommon : ∀ entry ∈ Documents.builtin.mapping.common,
      entry.2.name ≠ Subject.relationNameAttribute := by decide +kernel
  have hobject : ∀ o ∈ Documents.builtin.mapping.objects, ∀ entry ∈ o.2.attributes,
      entry.2.name ≠ Subject.relationNameAttribute := by decide +kernel
  have hextension : ∀ o ∈ Documents.builtin.mapping.objects, ∀ e ∈ o.2.extensions,
      ∀ entry ∈ e.2.attributes, entry.2.name ≠ Subject.relationNameAttribute := by decide +kernel
  have hcomposite : ∀ c ∈ Documents.builtin.mapping.composites, ∀ entry ∈ c.2.attributes,
      entry.2.name ≠ Subject.relationNameAttribute := by decide +kernel
  cases h with
  | common hentry => exact hcommon _ hentry
  | object ho hentry => exact hobject _ ho _ hentry
  | extension ho he hentry => exact hextension _ ho _ he _ hentry
  | composite hc hentry => exact hcomposite _ hc _ hentry

end Builtin

namespace Mapping

variable {m : Mapping} {o : ObjectMapping} {stixId stixType : String} {properties : Members}
  {extensions : Option Members} {typeName : String}

/-- The type is chosen by the subtype table alone if there are no extensions. -/
theorem targetType?_of_no_extensions {table : SubtypeTable}
    (ho : m.objects.get? stixType = some o) (htable : o.subtypes = some table)
    (hextensions : o.extensions = [])
    (h : m.targetType? stixId stixType properties extensions = .ok (some typeName)) :
    ∃ v, properties.get? table.property = some v ∧
      table.resolve? (subtypeKey v) = some typeName := by
  unfold targetType? at h
  simp only [ho, except_bind_eq_ok] at h
  obtain ⟨selected, hselected, relevant, -, h⟩ := h
  have hoverride : ((relevant.bind fun name => o.extensions.get? name).bind (·.typeName)) =
      none := by
    rw [hextensions]
    cases relevant <;> rfl
  rw [hoverride] at h
  obtain rfl : selected = typeName := Option.some.inj (Except.ok.inj h)
  simp only [selectedType, htable] at hselected
  split at hselected
  · cases hselected
  · next v hv =>
    refine ⟨v, hv, ?_⟩
    split at hselected
    · cases hselected
    · next found hfound =>
      rw [hfound, Except.ok.inj hselected]

end Mapping

namespace Subject

variable {s : Subject}

/-- An entry that is found for a property is one of the mapping. -/
theorem hasAttribute_of_listed {p : Property} {info : AttributeInfo} (hp : p ∈ s.listed)
    (h : p.answer = .ok (some info)) : s.mapping.HasAttribute info := by
  rw [listed] at hp
  split at hp
  · rcases List.mem_append.mp hp with hp | hp
    · obtain ⟨member, -, rfl⟩ := List.mem_map.mp hp
      exact .of_attribute? h
    · rcases hextension : s.extension? with _ | ⟨extension, members⟩
      · rw [hextension] at hp
        cases hp
      · rw [hextension] at hp
        obtain ⟨member, -, rfl⟩ := List.mem_map.mp hp
        exact .of_extensionAttribute? h
  · cases hp

/-- Nothing is filed under a name that no entry has. -/
theorem filedUnder_eq_nil {name : String}
    (h : ∀ info, s.mapping.HasAttribute info → info.name ≠ name) : s.filedUnder name = [] := by
  rw [filedUnder, gather, List.flatMap_eq_nil_iff]
  intro p hp
  rcases haccept : s.accept p with reason | info
  · rfl
  · exact if_neg (h info (hasAttribute_of_listed hp (answer_of_accept haccept)))

namespace IsRelationship

variable (hs : s.IsRelationship)
include hs

/-- The type of a relationship is chosen by its own property alone. -/
theorem typeName_eq {extensions : Option Members} {typeName : String}
    (h : s.mapping.targetType? s.stixId s.stixType s.object extensions = .ok (some typeName)) :
    ∃ v, s.object.get? relationshipType = some v ∧
      Builtin.relationshipTypes.resolve? (Mapping.subtypeKey v) = some typeName :=
  Mapping.targetType?_of_no_extensions hs.object rfl rfl h

/-- The relation is called what the relationship calls itself if that is outside the vocabulary,
and else nothing. -/
theorem relationName_eq {c : Conversion} {r : Relation} (hc : s.convert = .ok c)
    (hmain : c.statements.main? = some (.relation r)) :
    Multimap.get? r.attributes relationNameAttribute =
      Multimap.filed? (s.relationName r.typeName) := by
  obtain ⟨-, main, hmain', hget⟩ := convert_files hs.classOf? hc
  obtain rfl := Option.some.inj (hmain.symm.trans hmain')
  have hnone : s.filedUnder relationNameAttribute = [] := by
    apply filedUnder_eq_nil
    intro info hinfo
    rw [hs.mapping] at hinfo
    exact Builtin.name_ne_relationName hinfo
  have hcalls : s.calls (.relation r) relationNameAttribute = s.relationName r.typeName := by
    rw [calls, if_pos rfl]
  have hfiled := hget relationNameAttribute (by decide)
  rw [hnone, List.append_nil, hcalls] at hfiled
  exact hfiled

end IsRelationship

end Subject

/-! ## Names that are kept -/

/-- The kind of a relation is its type, unless that is the custom one. -/
theorem Relation.kind?_of_ne {r : Relation} (h : r.typeName ≠ Subject.customRelationship) :
    r.kind? = some r.typeName :=
  if_neg h

/-- The kind of a custom relation is the name that it keeps. -/
theorem Relation.kind?_of_quote {r : Relation} {kind : String}
    (htype : r.typeName = Subject.customRelationship)
    (hname : Multimap.get? r.attributes Subject.relationNameAttribute = some [quote kind]) :
    r.kind? = some (plain kind) := by
  rw [kind?, if_pos htype, hname, ← unquote_quote kind]
  rfl

/-- **Relationship types are not lost.** Under the built-in mapping every relationship that is
converted, strictly or not, says of what type it is. In lower case that is in the vocabulary, and
then the relation has the type that is named so, or else the relation has the one type of all
others, and what the relationship calls itself, if it is a text, is the one value that is filed as
its name. In either case it is read from the relation again: in lower case, or with single quotes
for double quotes. -/
theorem convertObject_kind {m : Mapping} {strict : Bool} {object : Members} {c : Conversion}
    (hm : Mapping.builtin = .ok m) (htype : object.text? "type" = some "relationship")
    (hc : convertObject m strict object = .ok c) :
    ∃ v r, object.get? Subject.relationshipType = some v ∧
      c.statements.main? = some (.relation r) ∧
      ((Mapping.subtypeKey v ∈ Builtin.vocabulary ∧
          Builtin.relationshipTypes.values.get? (Mapping.subtypeKey v) = some r.typeName ∧
          r.kind? = some (Mapping.subtypeKey v)) ∨
        (Mapping.subtypeKey v ∉ Builtin.vocabulary ∧
          r.typeName = Subject.customRelationship ∧
          ∀ kind, v = .string kind →
            Multimap.get? r.attributes Subject.relationNameAttribute = some [quote kind] ∧
            r.kind? = some (plain kind))) := by
  obtain rfl := Except.ok.inj (Mapping.builtin_eq.symm.trans hm)
  obtain ⟨s, hs, hconvert⟩ := convertObject_ok hc
  have hrelationship := Subject.isRelationship_of_identify htype hs
  obtain ⟨-, -, rfl⟩ := Subject.of_identify hs
  obtain ⟨extensions, typeName, t, r, -, htarget, hmain, -, hcasts⟩ :=
    Subject.convert_casts hrelationship.classOf? hconvert
  obtain ⟨v, hv, hresolve⟩ := hrelationship.typeName_eq htarget
  obtain rfl := hcasts.ofType
  refine ⟨v, r, hv, hmain, ?_⟩
  -- a kind of the vocabulary has a type of its own; all others share one and need their name kept
  by_cases hkind : Mapping.subtypeKey v ∈ Builtin.vocabulary
  · left
    rw [Builtin.resolve?_of_mem_vocabulary hkind] at hresolve
    have hkey : Mapping.subtypeKey v = r.typeName := Option.some.inj hresolve
    obtain ⟨hget, hne⟩ := Builtin.get?_of_mem_vocabulary _ hkind
    rw [hkey] at hkind hget hne ⊢
    exact ⟨hkind, hget, Relation.kind?_of_ne hne⟩
  · right
    rw [Builtin.resolve?_of_not_mem_vocabulary hkind] at hresolve
    have hcustom : r.typeName = Subject.customRelationship := (Option.some.inj hresolve).symm
    refine ⟨hkind, hcustom, ?_⟩
    rintro kind rfl
    have hname : Multimap.get? r.attributes Subject.relationNameAttribute = some [quote kind] := by
      rw [hrelationship.relationName_eq hconvert hmain, Subject.relationName, if_pos hcustom,
        Members.text?, hv]
      rfl
    exact ⟨hname, Relation.kind?_of_quote hcustom hname⟩

/-- A relationship between a malware and a tool. -/
def relationshipOf (kind : Json) : Members :=
  [("id", .string "relationship--1"), ("type", .string "relationship"),
    ("relationship_type", kind), ("source_ref", .string "malware--1"),
    ("target_ref", .string "tool--1")]

/-- The conversion of a relationship starts from what it is identified as. -/
theorem convertObject_relationshipOf (kind : Json) :
    convertObject Documents.builtin.mapping false (relationshipOf kind) =
      Subject.convert ⟨Documents.builtin.mapping, false, relationshipOf kind, "relationship--1",
        "relationship"⟩ :=
  convertObject_eq rfl

/-- The text of the statement for the relationship, if it is converted under the built-in
mapping. -/
def relationshipText (kind : Json) : Option String :=
  (convertObject Documents.builtin.mapping false (relationshipOf kind)).toOption.bind fun c =>
    c.statements.relations.bind fun t => t.text.toOption

/-- A relationship that has a text was converted. -/
theorem exists_convertObject_of_text {kind : Json}
    (h : (relationshipText kind).isSome = true) :
    ∃ c, convertObject Documents.builtin.mapping false (relationshipOf kind) = .ok c := by
  obtain ⟨text, htext⟩ := Option.isSome_iff_exists.mp h
  obtain ⟨c, hc, -⟩ := Option.bind_eq_some_iff.mp htext
  exact ⟨c, toOption_eq_some.mp hc⟩

/-- From the relation one reads the word of the vocabulary, or the name with single quotes. -/
theorem convertObject_kind_read : ∃ m c c' r r', Mapping.builtin = .ok m ∧
    (relationshipOf (.string "Uses")).text? "type" = some "relationship" ∧
    convertObject m false (relationshipOf (.string "Uses")) = .ok c ∧
    c.statements.main? = some (.relation r) ∧ r.kind? = some "uses" ∧
    (relationshipOf (.string "Likes \"it\"")).text? "type" = some "relationship" ∧
    convertObject m false (relationshipOf (.string "Likes \"it\"")) = .ok c' ∧
    c'.statements.main? = some (.relation r') ∧ r'.kind? = some "Likes 'it'" := by
  have hm := Mapping.builtin_eq
  have hruns : (relationshipText (.string "Uses")).isSome = true ∧
      (relationshipText (.string "Likes \"it\"")).isSome = true := by
    simp only [relationshipText, convertObject_relationshipOf, Subject.convert,
      Builtin.classOf?_relationship, Subject.draft, Subject.relationDraft,
      Builtin.roleplayerProperties_relationship]
    decide +kernel
  have hread : ∃ c r, convertObject Documents.builtin.mapping false (relationshipOf
      (.string "Uses")) = .ok c ∧ c.statements.main? = some (.relation r) ∧
      r.kind? = some "uses" := by
    have hwithin : Mapping.subtypeKey (.string "Uses") ∈ Builtin.vocabulary := by decide +kernel
    have hkey : Mapping.subtypeKey (.string "Uses") = "uses" := by decide +kernel
    obtain ⟨c, hc⟩ := exists_convertObject_of_text hruns.1
    obtain ⟨v, r, hv, hmain, hcases⟩ := convertObject_kind hm rfl hc
    obtain rfl := Option.some.inj hv
    rcases hcases with ⟨-, -, hread⟩ | ⟨hnot, -⟩
    · exact ⟨c, r, hc, hmain, hkey ▸ hread⟩
    · exact absurd hwithin hnot
  have hread' : ∃ c r, convertObject Documents.builtin.mapping false (relationshipOf
      (.string "Likes \"it\"")) = .ok c ∧ c.statements.main? = some (.relation r) ∧
      r.kind? = some "Likes 'it'" := by
    have houtside : Mapping.subtypeKey (.string "Likes \"it\"") ∉ Builtin.vocabulary := by
      decide +kernel
    have hplain : plain "Likes \"it\"" = "Likes 'it'" := by decide
    obtain ⟨c, hc⟩ := exists_convertObject_of_text hruns.2
    obtain ⟨v, r, hv, hmain, hcases⟩ := convertObject_kind hm rfl hc
    obtain rfl := Option.some.inj hv
    rcases hcases with ⟨hin, -⟩ | ⟨-, -, htold⟩
    · exact absurd hin houtside
    · exact ⟨c, r, hc, hmain, hplain ▸ (htold _ rfl).2⟩
  obtain ⟨c, r, hc, hmain, hkind⟩ := hread
  obtain ⟨c', r', hc', hmain', hkind'⟩ := hread'
  exact ⟨_, c, c', r, r', hm, rfl, hc, hmain, hkind, rfl, hc', hmain', hkind'⟩

/-- Two relationships can be of types that differ in their quotes, or in the numbers that stand for
them, and have statements with the same text. -/
theorem convertObject_kind_lost : Mapping.builtin = .ok Documents.builtin.mapping ∧
    Text.lowercase "a\"b" ≠ Text.lowercase "a'b" ∧
    (relationshipText (.string "a\"b")).isSome = true ∧
    relationshipText (.string "a\"b") = relationshipText (.string "a'b") ∧
    (relationshipText (.integer 5)).isSome = true ∧
    relationshipText (.integer 5) = relationshipText (.integer 6) := by
  refine ⟨Mapping.builtin_eq, by decide +kernel, ?_⟩
  simp only [relationshipText, convertObject_relationshipOf, Subject.convert,
    Builtin.classOf?_relationship, Subject.draft, Subject.relationDraft,
    Builtin.roleplayerProperties_relationship]
  decide +kernel

end ThreatGraph
