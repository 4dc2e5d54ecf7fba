import ThreatGraph.Proofs.Vocabulary

/-!
# Attribute entries

A mapping says of single properties what becomes of them: in the table that all types share, in
those of object types and of their extensions, and in those of nested objects. All these entries
are read from documents by one decoder, so what holds of whatever it makes holds of all of them
(`Mapping.forall_entries_of_texts`), and a question about a property is answered with one of them.

In particular, no list has lists for elements.
-/

namespace ThreatGraph

open Naming

/-- The attribute entries of a mapping. -/
inductive Mapping.HasAttribute (m : Mapping) : AttributeInfo → Prop where
  | common {property : String} {info : AttributeInfo} :
    (property, info) ∈ m.common → HasAttribute m info
  | object {stixType property : String} {o : ObjectMapping} {info : AttributeInfo} :
    (stixType, o) ∈ m.objects → (property, info) ∈ o.attributes → HasAttribute m info
  | extension {stixType extension property : String} {o : ObjectMapping} {e : ExtensionMapping}
    {info : AttributeInfo} :
    (stixType, o) ∈ m.objects → (extension, e) ∈ o.extensions → (property, info) ∈ e.attributes →
    HasAttribute m info
  | composite {schema property : String} {c : CompositeMapping} {info : AttributeInfo} :
    (schema, c) ∈ m.composites → (property, info) ∈ c.attributes → HasAttribute m info

/-! ## Answers -/

namespace Mapping.HasAttribute

variable {m : Mapping} {stixType property : String} {info : AttributeInfo}

/-- The entry that is found for a property of an object type is one of the mapping. -/
theorem of_attribute? (h : m.attribute? stixType property = .ok (some info)) :
    m.HasAttribute info := by
  unfold attribute? at h
  split at h
  · next hcommon =>
    obtain rfl := Option.some.inj (Except.ok.inj h)
    exact .common (Table.mem_of_get? hcommon)
  · obtain ⟨o, ho, h⟩ := except_bind_eq_ok.mp h
    exact .object (Table.mem_of_get? (found_eq_ok.mp ho)) (Table.mem_of_get? (Except.ok.inj h))

theorem of_extensionAttribute? {extension : String}
    (h : m.extensionAttribute? stixType extension property = .ok (some info)) :
    m.HasAttribute info := by
  obtain ⟨o, ho, h⟩ := except_bind_eq_ok.mp h
  obtain ⟨e, he, h⟩ := except_bind_eq_ok.mp h
  exact .extension (Table.mem_of_get? (found_eq_ok.mp ho)) (Table.mem_of_get? (found_eq_ok.mp he))
    (Table.mem_of_get? (Except.ok.inj h))

theorem of_compositeAttribute {schema field : String}
    (h : m.compositeAttribute schema field = .ok info) : m.HasAttribute info := by
  obtain ⟨c, hc, h⟩ := except_bind_eq_ok.mp h
  exact .composite (Table.mem_of_get? (found_eq_ok.mp hc)) (Table.mem_of_get? (found_eq_ok.mp h))

end Mapping.HasAttribute

/-! ## Decoding -/

/-- Every attribute entry of the object type and of its extensions satisfies `Q`. -/
structure ObjectMapping.AllAttributes (Q : AttributeInfo → Prop) (o : ObjectMapping) : Prop where
  attributes : o.attributes.All Q
  extensions : o.extensions.All fun e => e.attributes.All Q

namespace Decodes

open Decoding

variable {P : String → Prop} {Q : AttributeInfo → Prop}

/-- An extension has entries as they are decoded. -/
theorem extensionEntries (hQ : Decodes P AttributeInfo.decode? Q) :
    Decodes P ExtensionMapping.decode? fun e => e.attributes.All Q := by
  refine record fun given e hfields h => ?_
  split at h
  · simp only [List.forall_mem_cons] at hfields
    obtain ⟨-, hattributes, -⟩ := hfields
    simp only [Option.bind_eq_bind, Option.bind_eq_some_iff, Option.pure_def,
      Option.some.injEq] at h
    obtain ⟨_, -, table, htable, rfl⟩ := h
    exact hQ.table.orElse hattributes (fun _ he => absurd he List.not_mem_nil) htable
  · cases h

theorem objectEntries (hQ : Decodes P AttributeInfo.decode? Q) :
    Decodes P ObjectMapping.decode? (·.AllAttributes Q) := by
  refine record fun given o hfields h => ?_
  split at h
  · simp only [List.forall_mem_cons] at hfields
    obtain ⟨-, -, hextensions, hattributes, -⟩ := hfields
    simp only [Option.bind_eq_bind, Option.bind_eq_some_iff, Option.pure_def,
      Option.some.injEq] at h
    obtain ⟨_, -, _, -, extensions, hextensions', table, htable, rfl⟩ := h
    exact
      ⟨hQ.table.orElse hattributes (fun _ he => absurd he List.not_mem_nil) htable,
        hQ.extensionEntries.table.orElse hextensions (fun _ he => absurd he List.not_mem_nil)
          hextensions'⟩
  · cases h

theorem compositeEntries (hQ : Decodes P AttributeInfo.decode? Q) :
    Decodes P CompositeMapping.decode? fun c => c.attributes.All Q := by
  refine record fun given c hfields h => ?_
  split at h
  · simp only [List.forall_mem_cons] at hfields
    obtain ⟨-, hattributes, -⟩ := hfields
    simp only [Option.bind_eq_bind, Option.bind_eq_some_iff, Option.pure_def,
      Option.some.injEq] at h
    obtain ⟨_, -, table, htable, _, -, rfl⟩ := h
    exact hQ.table.required hattributes htable
  · cases h

end Decodes

/-- What holds of every entry that is decoded holds of the entries of a mapping that is read from
texts. -/
theorem Mapping.forall_entries_of_texts {texts : Table String} {m : Mapping}
    (h : ofTexts texts = .ok m) {Q : AttributeInfo → Prop}
    (hQ : Decodes (Stated texts) AttributeInfo.decode? Q) {info : AttributeInfo}
    (hinfo : m.HasAttribute info) : Q info := by
  obtain ⟨d, hsources, rfl, -⟩ := assemble_eq_ok.mp h
  simp only [Sources.ofTexts, Documents.sources, Sources.mk.injEq] at hsources
  obtain ⟨-, hdomain, hrelationship, hobservables, hmeta, hcommon, hcomposites, -⟩ := hsources
  have hobjects : d.objects.All (·.AllAttributes Q) :=
    (((decodeDocument_ok hQ.objectEntries.table hdomain).append
      (decodeDocument_ok hQ.objectEntries.table hrelationship)).append
      (decodeDocument_ok hQ.objectEntries.table hobservables)).append
      (decodeDocument_ok hQ.objectEntries.table hmeta)
  cases hinfo with
  | common hmem => exact decodeDocument_ok hQ.table hcommon _ hmem
  | object ho hmem => exact (hobjects _ ho).attributes _ hmem
  | extension ho he hmem => exact (hobjects _ ho).extensions _ he _ hmem
  | composite hc hmem => exact decodeDocument_ok hQ.compositeEntries.table hcomposites _ hc _ hmem

/-! ## Lists of lists -/

namespace ValueType

/-- The type is no list of lists. -/
def Flat (type : ValueType) : Prop := type.elementType.isList = false

/-- A list and its elements, which are no lists, have the same element type. -/
theorem elementType_of_flat {element : ValueType} (h : (ValueType.list element).Flat) :
    element.elementType = element := by
  cases element with
  | list => cases h
  | _ => rfl

theorem flat_of_ofTag? {tag : String} {type : ValueType} (h : ofTag? tag = some type) :
    type.Flat := by
  rw [ofTag?] at h
  split at h
  · obtain ⟨element, helement, rfl⟩ := Option.map_eq_some_iff.mp h
    exact (tag_of_ofElementTag? helement).2
  · have hlist := (tag_of_ofElementTag? h).2
    cases type with
    | list => cases hlist
    | _ => rfl

end ValueType

theorem Decodes.flat {P : String → Prop} :
    Decodes P AttributeInfo.decode? fun info => info.valueType.Flat := by
  refine record fun given info hfields h => ?_
  split at h
  · simp only [Option.bind_eq_bind, Option.bind_eq_some_iff, Option.pure_def,
      Option.some.injEq] at h
    obtain ⟨name, -, type, htype, _, -, rfl⟩ := h
    obtain ⟨value, -, hvalue⟩ := Option.bind_eq_some_iff.mp htype
    obtain ⟨tag, -, htag⟩ := Option.bind_eq_some_iff.mp hvalue
    exact ValueType.flat_of_ofTag? htag
  · cases h

end ThreatGraph
