import ThreatGraph.Proofs.Consistency
import ThreatGraph.Proofs.Construction
import ThreatGraph.Proofs.Literals
import ThreatGraph.Proofs.Processing

/-!
# Where the values of properties are filed

Which literals a value is rendered as shows from its type and the value alone
(`ValueType.literals`): a scalar has one, a list has those of its elements, and values that need
helpers or links have none. So a conversion can be checked against its object. Every property is
either reported or has its literals filed under the name in its entry, in the order in which
properties are taken, and nothing else is filed (`convertObject_files`).

The proof follows the parts of `Subject.convert_parts`: the literals of a part are those of its
value (`convertValue_renders`), and adding attributes in order files them in order
(`Attributes.get?_foldl_addAll`), behind what the relation calls itself.
-/

namespace ThreatGraph

open Naming

/-! ## Literals of values -/

/-- The literals of a value that is converted under a type. -/
def ValueType.literals : ValueType → Json → List String
  | .scalar s, raw => (Literal.read s raw).toOption.toList.map Literal.text
  | .list element, .array items => items.flatMap element.literals
  | _, _ => []

theorem ValueType.literal_ne_empty {type : ValueType} {raw : Json} {literal : String}
    (h : literal ∈ type.literals raw) : literal ≠ "" := by
  induction type generalizing raw with
  | scalar s =>
    obtain ⟨value, -, rfl⟩ := List.mem_map.mp h
    exact value.isValue_text.ne_empty
  | list element ih =>
    cases raw with
    | array items =>
      obtain ⟨item, -, hitem⟩ := List.mem_flatMap.mp h
      exact ih hitem
    | _ => cases h
  | _ => cases h

section Values

variable {m : Mapping} {owner : Owner} {v w : Variables} {c : Converted}

/-- The literals of a list are those of its items, in order. -/
theorem convertItems_renders {element : ValueType} {items : List Json}
    (hvalue : ∀ {raw : Json} {v w : Variables} {c : Converted},
      (convertValue m owner element raw).outcome v = (.ok c, w) →
        c.literals = element.literals raw)
    (h : (convertItems m owner element items).outcome v = (.ok c, w)) :
    c.literals = items.flatMap element.literals := by
  induction items generalizing v c with
  | nil =>
    simp only [convertItems, pure_eq_ok] at h
    obtain ⟨rfl, -⟩ := h
    rfl
  | cons item rest ih =>
    obtain ⟨first, others, u, hfirst, hothers, rfl⟩ := convertItems_cons_ok h
    rw [List.flatMap_cons, ← hvalue hfirst, ← ih hothers]

/-- A value that is converted is rendered as the literals of its type. -/
theorem convertValue_renders {type : ValueType} {raw : Json}
    (h : (convertValue m owner type raw).outcome v = (.ok c, w)) :
    c.literals = type.literals raw := by
  -- on the type: only a list takes its literals from values of another type
  induction type generalizing raw v w c with
  | scalar s =>
    obtain ⟨literal, hread, rfl, -⟩ := convertValue_scalar_ok h
    rw [ValueType.literals, hread]
    rfl
  | list element ih =>
    obtain ⟨items, rfl, -, hitems⟩ := convertValue_list_ok h
    exact convertItems_renders ih hitems
  | relation typeName =>
    obtain ⟨id, targetType, a, rfl, -, -, rfl⟩ := convertValue_relation_ok h
    rfl
  | composite schema =>
    obtain ⟨fields, composite, gathered, ownerVar, u, rfl, -, -, -, -, rfl⟩ :=
      convertValue_composite_ok h
    rfl
  | keyValue schema =>
    obtain ⟨pairs, k, ownerVar, a, rfl, -, -, -, rfl⟩ := convertValue_keyValue_ok h
    rfl
  | dictionary =>
    obtain ⟨entries, ownerVar, a, rfl, -, -, rfl⟩ := convertValue_dictionary_ok h
    rfl
  | empty =>
    simp only [convertValue, pure_eq_ok] at h
    obtain ⟨rfl, -⟩ := h
    rfl
  | roleplayer =>
    simp only [convertValue, pure_eq_ok] at h
    obtain ⟨rfl, -⟩ := h
    rfl

end Values

/-! ## Attributes of the main thing -/

namespace Attributes

/-- Attributes that are given one after the other repeat no name. -/
theorem proper_foldl_addAll {a : Attributes} (h : Multimap.Proper a)
    (attributes : List (String × List String)) : Multimap.Proper
      (attributes.foldl (fun (a : Attributes) given => a.addAll given.1 given.2) a) := by
  induction attributes generalizing a with
  | nil => exact h
  | cons given rest ih => exact ih (proper_addAll h given.1 given.2)

/-- What is found under a name after attributes have been added. -/
theorem get?_foldl_addAll {a : Attributes} (h : Multimap.Proper a)
    (attributes : List (String × List String)) (name : String) :
    Multimap.get? (attributes.foldl (fun (a : Attributes) given => a.addAll given.1 given.2) a)
      name = Multimap.filed? (a.under name ++ given attributes name) := by
  rw [← under_foldl_addAll]
  exact (proper_foldl_addAll h attributes).get?_eq name

/-- What parts give for a name is what they give together. -/
theorem given_flatMap {α : Type} (parts : List α) (f : α → List (String × List String))
    (name : String) :
    given (parts.flatMap f) name = parts.flatMap fun part => given (f part) name :=
  List.flatMap_assoc

/-- Values that have characters are all filed. -/
theorem given_single {name other : String} {values : List String} (hother : other ≠ "")
    (hvalues : ∀ value ∈ values, value ≠ "") :
    given [(name, values)] other = if name = other then values else [] := by
  have hfilter : values.filter (· ≠ "") = values := by
    apply List.filter_eq_self.mpr
    intro value hvalue
    exact decide_eq_true (hvalues value hvalue)
  simp only [given, List.flatMap_cons, List.flatMap_nil, List.append_nil, hother, ne_eq,
    not_false_eq_true, and_true]
  split
  · exact hfilter
  · rfl

end Attributes

namespace Subject

variable {s : Subject}

/-- What the thing that stands for the object has under a name before its properties are filed: a
relation outside the vocabulary has what it calls itself. -/
def calls (s : Subject) : Thing → String → List String
  | .entity _, _ => []
  | .relation r, name => if relationNameAttribute = name then s.relationName r.typeName else []

/-- The literals of the properties that are converted under entries of a name. -/
def filedUnder (s : Subject) (name : String) : List String :=
  s.gather fun info raw => if info.name = name then info.valueType.literals raw else []

/-- What is filed under a name is what the properties with that name give, in order. -/
theorem given_parts {parts : List Collected} (hparts : List.Forall₂ s.Comes s.listed parts)
    {name : String} (hname : name ≠ "") :
    Attributes.given (Collected.all parts).attributes name = s.filedUnder name := by
  rw [Collected.all_flatMap (f := fun part => part.attributes) parts rfl fun _ _ => rfl,
    Attributes.given_flatMap]
  symm
  rw [← List.forall₂_eq_eq_eq]
  apply gather_forall₂ hparts
  · intro skipped
    rfl
  · intro info raw value v w hvalue
    rw [List.forall₂_eq_eq_eq, convertValue_renders hvalue,
      Attributes.given_single hname fun _ => ValueType.literal_ne_empty]

/-- The main thing has under a name what it calls itself, then what its properties give it. -/
theorem Stands.get? {typeName : String} {attributes : List (String × List String)}
    {objectClass : ObjectClass} {main : MainThing}
    (h : s.Stands typeName attributes objectClass main) {name : String} (hname : name ≠ "") :
    Multimap.get? main.thing.attributes name =
      Multimap.filed? (s.calls main.thing name ++ Attributes.given attributes name) := by
  cases h with
  | entity _ =>
    rw [mainEntity, Entity.foldl_addAttributes]
    exact Attributes.get?_foldl_addAll .nil attributes name
  | relation _ =>
    -- the name of a custom relation is quoted, so it is never ignored as empty
    have hnamed : ∀ value ∈ s.relationName typeName, value ≠ "" := by
      intro value hvalue
      rw [relationName] at hvalue
      split at hvalue
      · obtain ⟨text, -, rfl⟩ := List.mem_map.mp hvalue
        exact (isValue_quote text).ne_empty
      · cases hvalue
    rw [mainRelation_eq]
    apply (Attributes.get?_foldl_addAll (Attributes.proper_addAll .nil ..) attributes name).trans
    rw [Attributes.under_addAll, Attributes.given_single hname hnamed]
    rfl

/-- What is converted is filed under the names of the entries, and all else is reported. -/
theorem convert_files {objectClass : ObjectClass} {c : Conversion}
    (hclass : s.mapping.classOf? s.stixType = some objectClass) (hc : s.convert = .ok c) :
    c.skipped = s.listed.filterMap s.report? ∧
      ∃ main, c.statements.main? = some main ∧ ∀ name, name ≠ "" →
        Multimap.get? main.attributes name =
          Multimap.filed? (s.calls main name ++ s.filedUnder name) := by
  obtain ⟨extensions, typeName, parts, main, -, -, hparts, hmain, hskipped, horder⟩ :=
    convert_parts hclass hc
  refine ⟨hskipped.trans (skipped_eq hparts), main.thing, ?_, ?_⟩
  · exact (Draft.main?_of_order rfl horder).1
  · intro name hname
    rw [hmain.get? hname, given_parts hparts hname]

end Subject

/-- **Nothing is lost, repeated or misfiled.** If an object of a class is converted, strictly or
not, then its properties that are left out are reported in the order in which they are taken, each
once. All others are filed: under each name the thing that stands for the object has what it calls
itself, if it is a relation outside the vocabulary, and then the literals of the properties whose
entries have the name, in the same order. Without any there is no entry for the name. -/
theorem convertObject_files {m : Mapping} {strict : Bool} {object : Members} {s : Subject}
    {objectClass : ObjectClass} {c : Conversion}
    (hs : Subject.identify m strict object = .ok s)
    (hclass : m.classOf? s.stixType = some objectClass)
    (hc : convertObject m strict object = .ok c) :
    c.skipped = s.listed.filterMap s.report? ∧
      ∃ main, c.statements.main? = some main ∧ ∀ name, name ≠ "" →
        Multimap.get? main.attributes name =
          Multimap.filed? (s.calls main name ++ s.filedUnder name) := by
  rw [convertObject_eq hs] at hc
  obtain ⟨rfl, -, -⟩ := Subject.of_identify hs
  exact Subject.convert_files hclass hc

/-- The documents of a small mapping: relationships that are outside the vocabulary, and that have
several properties for what they call themselves. All types share one of these. -/
def callingDocuments : Documents where
  classes := { domain := ["tool"], relationship := ["relationship"] }
  domainObjects := [("tool", { typeName := "tool" })]
  relationshipObjects :=
    [("relationship",
      { typeName := "custom-relationship"
        attributes :=
          [("source_ref", { name := "source", valueType := .roleplayer }),
            ("title", { name := "title", valueType := .scalar .long }),
            ("names", { name := "relation-name", valueType := .list (.scalar .string) }),
            ("count", { name := "count", valueType := .scalar .long })]
        extensions :=
          [("more",
            { attributes :=
                [("name", { name := "relation-name", valueType := .scalar .string })] })] })]
  commonAttributes := [("title", { name := "relation-name", valueType := .scalar .string })]
  relationRoles := [("custom-relationship", [("source_ref", "source")])]
  dictionary := ⟨"key", "property", ⟨"entry", "holder", "held"⟩, []⟩

/-- A relationship with many names, and with a count that is no number. -/
def manyNames : Members :=
  [("id", .string "relationship--1"), ("type", .string "relationship"),
    ("count", .bool true), ("names", .array [.string "a", .string "b"]),
    ("relationship_type", .string "calls"), ("source_ref", .string "tool--1"),
    ("title", .string "t"),
    ("extensions", .object [("more", .object [("note", .null), ("name", .string "c")])])]

/-- All names of the relationship are filed in order, and what cannot be filed is reported. -/
theorem convertObject_files_names :
    let m := callingDocuments.mapping
    let s : Subject := ⟨m, false, manyNames, "relationship--1", "relationship"⟩
    Mapping.ofDocuments callingDocuments = .ok m ∧ Subject.identify m false manyNames = .ok s ∧
      m.classOf? s.stixType = some .relationship ∧
      ∃ c main, convertObject m false manyNames = .ok c ∧
        c.skipped.map Skipped.name =
          ["id", "type", "count", "relationship_type", "extensions", "more.note"] ∧
        c.skipped = s.listed.filterMap s.report? ∧ c.statements.main? = some main ∧
        Multimap.get? main.attributes "relation-name" =
          some [quote "calls", quote "a", quote "b", quote "t", quote "c"] ∧
        Multimap.get? main.attributes "count" = none := by
  intro m s
  have hs : Subject.identify m false manyNames = .ok s := rfl
  have hclass : m.classOf? s.stixType = some .relationship := rfl
  have hrun : (convertObject m false manyNames).toOption.map (fun c =>
      (c.skipped.map Skipped.name, c.statements.main?.map fun main =>
        (s.calls main "relation-name", s.calls main "count"))) =
      some (["id", "type", "count", "relationship_type", "extensions", "more.note"],
        some ([quote "calls"], [])) := by decide +kernel
  have hfiled : s.filedUnder "relation-name" = [quote "a", quote "b", quote "t", quote "c"] := by
    decide +kernel
  have hnone : s.filedUnder "count" = [] := by decide +kernel
  rcases hc : convertObject m false manyNames with defect | c
  · rw [hc] at hrun
    cases hrun
  -- what a name is filed under: first what the relation calls itself, then the properties
  obtain ⟨hskipped, main, hmain, hget⟩ := convertObject_files hs hclass hc
  rw [hc, Except.toOption, Option.map_some, hmain, Option.map_some] at hrun
  obtain ⟨hnames, hcalls⟩ := Prod.mk.inj (Option.some.inj hrun)
  obtain ⟨hname, hcount⟩ := Prod.mk.inj (Option.some.inj hcalls)
  refine ⟨rfl, hs, hclass, c, main, rfl, hnames, hskipped, hmain, ?_, ?_⟩
  · rw [hget "relation-name" (by decide), hname, hfiled]
    rfl
  · rw [hget "count" (by decide), hcount, hnone]
    rfl

end ThreatGraph
