import ThreatGraph.Mapping.Lookup
import ThreatGraph.Proofs.Consistency
import ThreatGraph.Proofs.Success

/-!
# The words of a mapping

A mapping takes its words from its documents: every type, role and attribute name in it is a text
that stands in one of them (`Mapping.worded_ofTexts`), and so is the tag of every value type. What
the mapping answers is worded the same way.

Being worded is a matter of a predicate on words. `Decodes P decode Q` says of a decoder that what
it makes of values whose texts satisfy `P` satisfies `Q`; decoders of records and tables have it
from those of their parts.
-/

namespace ThreatGraph

/-! ## The texts of a value -/

mutual

/-- The texts in a value, the names of members apart. -/
def Json.texts : Json → List String
  | .string text => [text]
  | .array items => itemTexts items
  | .object members => memberTexts members
  | _ => []

/-- The texts in several values. -/
def Json.itemTexts : List Json → List String
  | [] => []
  | item :: rest => item.texts ++ itemTexts rest

/-- The texts in the values of members. -/
def Json.memberTexts : List (String × Json) → List String
  | [] => []
  | (_, value) :: rest => value.texts ++ memberTexts rest

end

variable (P : String → Prop)

/-- Every text in the value is a word. -/
def Json.Worded (j : Json) : Prop := ∀ text ∈ j.texts, P text

/-- Every entry of the table satisfies `Q`, whatever its name. -/
def Table.All {α : Type} (Q : α → Prop) (t : Table α) : Prop := ∀ entry ∈ t, Q entry.2

namespace Json

variable {P}

/-- The items of a list have only texts of the list. -/
theorem Worded.item {items : List Json} (h : (Json.array items).Worded P) {item : Json}
    (hitem : item ∈ items) : item.Worded P := by
  intro text htext
  refine h text ?_
  rw [texts]
  induction items with
  | nil => exact absurd hitem List.not_mem_nil
  | cons first rest ih =>
    rw [itemTexts]
    rcases List.mem_cons.mp hitem with rfl | hitem
    · exact List.mem_append_left _ htext
    · have hrest : (Json.array rest).Worded P := fun t ht =>
        h t (by rw [texts, itemTexts]; exact List.mem_append_right _ ht)
      exact List.mem_append_right _ (ih hrest hitem)

/-- The members of an object have only texts of the object. -/
theorem Worded.member {members : Members} (h : (Json.object members).Worded P)
    {member : String × Json} (hmember : member ∈ members) : member.2.Worded P := by
  intro text htext
  refine h text ?_
  rw [texts]
  induction members with
  | nil => exact absurd hmember List.not_mem_nil
  | cons first rest ih =>
    obtain ⟨name, value⟩ := first
    rw [memberTexts]
    rcases List.mem_cons.mp hmember with rfl | hmember
    · exact List.mem_append_left _ htext
    · have hrest : (Json.object rest).Worded P := fun t ht =>
        h t (by rw [texts, memberTexts]; exact List.mem_append_right _ ht)
      exact List.mem_append_right _ (ih hrest hmember)

end Json

namespace Table

variable {α : Type} {Q : α → Prop}

/-- What is found in a table is one of its entries. -/
theorem All.get? {t : Table α} (h : t.All Q) {name : String} {a : α} (ha : t.get? name = some a) :
    Q a := h _ (mem_of_get? ha)

theorem All.append {t t' : Table α} (h : t.All Q) (h' : t'.All Q) : Table.All Q (t ++ t') := by
  intro entry hentry
  rcases List.mem_append.mp hentry with hentry | hentry
  · exact h entry hentry
  · exact h' entry hentry

/-- Setting a name to something that it holds of keeps it so. -/
theorem All.set {t : Table α} (h : t.All Q) (name : String) {a : α} (ha : Q a) :
    (t.set name a).All Q := by
  induction t with
  | nil =>
    intro entry hentry
    obtain rfl := List.mem_singleton.mp hentry
    exact ha
  | cons first rest ih =>
    obtain ⟨other, old⟩ := first
    have hrest := ih fun entry hentry => h entry (List.mem_cons_of_mem _ hentry)
    intro entry hentry
    rw [Table.set] at hentry
    split at hentry
    · rcases List.mem_cons.mp hentry with rfl | hentry
      · exact ha
      · exact h entry (List.mem_cons_of_mem _ hentry)
    · rcases List.mem_cons.mp hentry with rfl | hentry
      · exact h _ List.mem_cons_self
      · exact hrest entry hentry

/-- It is enough that it holds of all pairs that a table is made of. -/
theorem All.ofPairs {pairs : List (String × α)} (h : ∀ pair ∈ pairs, Q pair.2) :
    (ofPairs pairs).All Q := by
  have hfold : ∀ t : Table α, t.All Q →
      Table.All Q (pairs.foldl (fun t entry => t.set entry.1 entry.2) t) := by
    induction pairs with
    | nil => exact fun _ ht => ht
    | cons pair rest ih =>
      intro t ht
      have hrest := fun p hp => h p (List.mem_cons_of_mem _ hp)
      exact ih hrest _ (ht.set pair.1 (h pair List.mem_cons_self))
  exact hfold [] fun _ hentry => absurd hentry List.not_mem_nil

end Table

/-! ## What a mapping says -/

/-- The relation that values of the type are stored as is named in the tag of a value type. -/
def ValueType.Worded : ValueType → Prop
  | .relation typeName => P ("relation:" ++ typeName) ∨ P ("list:relation:" ++ typeName)
  | .list element => element.Worded
  | _ => True

structure AttributeInfo.Worded (info : AttributeInfo) : Prop where
  name : P info.name
  valueType : info.valueType.Worded P

structure HelperRelation.Worded (r : HelperRelation) : Prop where
  typeName : P r.typeName
  ownerRole : P r.ownerRole
  helperRole : P r.helperRole

structure ExtensionMapping.Worded (e : ExtensionMapping) : Prop where
  typeName : ∀ typeName ∈ e.typeName, P typeName
  attributes : e.attributes.All (·.Worded P)

structure ObjectMapping.Worded (o : ObjectMapping) : Prop where
  typeName : P o.typeName
  subtypes : ∀ subtypes ∈ o.subtypes, subtypes.values.All P
  extensions : o.extensions.All (·.Worded P)
  attributes : o.attributes.All (·.Worded P)

structure CompositeMapping.Worded (c : CompositeMapping) : Prop where
  typeName : P c.typeName
  attributes : c.attributes.All (·.Worded P)
  relation : c.relation.Worded P

structure CustomKey.Worded (c : CustomKey) : Prop where
  entityType : P c.entityType
  nameAttribute : P c.nameAttribute

structure KeyValueMapping.Worded (k : KeyValueMapping) : Prop where
  valueType : k.valueType.Worded P
  valueAttribute : P k.valueAttribute
  keys : k.keys.All P
  relation : k.relation.Worded P
  custom : ∀ custom ∈ k.custom, custom.Worded P

structure DictionaryItem.Worded (i : DictionaryItem) : Prop where
  entityType : P i.entityType
  valueAttribute : P i.valueAttribute

structure DictionaryMapping.Worded (d : DictionaryMapping) : Prop where
  keyAttribute : P d.keyAttribute
  propertyAttribute : P d.propertyAttribute
  relation : d.relation.Worded P
  items : d.items.All (·.Worded P)

/-- Every type, role and attribute name that the mapping can answer with is a word. -/
structure Mapping.Worded (m : Mapping) : Prop where
  objects : m.objects.All (·.Worded P)
  common : m.common.All (·.Worded P)
  composites : m.composites.All (·.Worded P)
  roles : m.roles.All (·.All P)
  keyValues : m.keyValues.All (·.Worded P)
  dictionary : m.dictionary.Worded P

/-! ## Tags -/

namespace Text

/-- A text is cut at a mark that stands between the two parts. -/
theorem append_of_cutList? {mark cs before after : List Char}
    (h : cutList? mark cs = some (before, after)) : cs = before ++ mark ++ after := by
  induction cs generalizing before with
  | nil =>
    rw [cutList?] at h
    split at h
    · next hmark =>
      obtain ⟨rfl, rfl⟩ := Prod.mk.inj (Option.some.inj h)
      simpa using hmark
    · cases h
  | cons c rest ih =>
    rw [cutList?] at h
    split at h
    · next hprefix =>
      obtain ⟨rfl, rfl⟩ := Prod.mk.inj (Option.some.inj h)
      exact (List.append_eq_of_isPrefixOf?_eq_some hprefix).symm
    · obtain ⟨⟨first, last⟩, hcut, heq⟩ := Option.map_eq_some_iff.mp h
      obtain ⟨rfl, rfl⟩ := Prod.mk.inj heq
      rw [ih hcut]
      rfl

/-- The parts with the mark between them are the text. -/
theorem append_of_cut? {mark s before after : String} (h : cut? mark s = some (before, after)) :
    s = before ++ mark ++ after := by
  obtain ⟨⟨first, last⟩, hcut, heq⟩ := Option.map_eq_some_iff.mp h
  obtain ⟨rfl, rfl⟩ := Prod.mk.inj heq
  refine String.toList_inj.mp ?_
  rw [append_of_cutList? hcut]
  simp

end Text

namespace ValueType

variable {tag : String} {type : ValueType}

/-- The type that is read off the tag of an element has this tag, and is no list. -/
theorem tag_of_ofElementTag? (h : ofElementTag? tag = some type) :
    type.tag = tag ∧ type.isList = false := by
  rw [ofElementTag?] at h
  split at h
  · unfold ofWord? at h
    split at h
    all_goals cases h
    all_goals exact ⟨rfl, rfl⟩
  · next kind name hcut =>
    obtain rfl := Text.append_of_cut? hcut
    unfold ofNamed? at h
    split at h
    · cases h
    · split at h
      all_goals cases h
      all_goals exact ⟨rfl, rfl⟩

/-- A type is read off the tag that it has. -/
theorem tag_of_ofTag? (h : ofTag? tag = some type) : type.tag = tag := by
  rw [ofTag?] at h
  split at h
  · next element hcut =>
    obtain ⟨type, helement, rfl⟩ := Option.map_eq_some_iff.mp h
    rw [ValueType.tag, (tag_of_ofElementTag? helement).1, Text.append_of_cut? hcut]
    rfl
  · exact (tag_of_ofElementTag? h).1

/-- A type that is named by a word is worded. -/
theorem worded_of_ofTag? {P : String → Prop} (h : ofTag? tag = some type) (htag : P tag) :
    type.Worded P := by
  rw [← tag_of_ofTag? h] at htag
  rw [ofTag?] at h
  split at h
  · obtain ⟨element, helement, rfl⟩ := Option.map_eq_some_iff.mp h
    have hlist := (tag_of_ofElementTag? helement).2
    cases element with
    | relation typeName =>
      refine .inr ?_
      rw [ValueType.tag, ValueType.tag, ← String.append_assoc] at htag
      exact htag
    | list => cases hlist
    | _ => trivial
  · have hlist := (tag_of_ofElementTag? h).2
    cases type with
    | relation => exact .inl htag
    | list => cases hlist
    | _ => trivial

end ValueType

/-! ## Decoding -/

/-- What is decoded from values whose texts are words satisfies `Q`. -/
def Decodes {α : Type} (decode : Json → Option α) (Q : α → Prop) : Prop :=
  ∀ ⦃j : Json⦄ ⦃a : α⦄, j.Worded P → decode j = some a → Q a

variable {P}

namespace Decoding

variable {α : Type} {decode : Json → Option α} {Q : α → Prop}

/-- The fields of a record are values inside it. -/
theorem worded_of_record? {fields : List (List String)} {j : Json} {given : List (Option Json)}
    (hj : j.Worded P) (h : record? fields j = some given) :
    ∀ field ∈ given, ∀ value ∈ field, value.Worded P := by
  intro field hfield value hvalue
  unfold record? at h
  split at h
  · next items =>
    split at h
    · obtain rfl := Option.some.inj h
      rcases List.mem_append.mp hfield with hfield | hfield
      · obtain ⟨item, hitem, rfl⟩ := List.mem_map.mp hfield
        obtain rfl := Option.some.inj hvalue
        exact hj.item hitem
      · obtain rfl := List.eq_of_mem_replicate hfield
        cases hvalue
    · cases h
  · next members =>
    simp only at h
    split at h
    · obtain rfl := Option.some.inj h
      obtain ⟨names, -, rfl⟩ := List.mem_map.mp hfield
      obtain ⟨member, hmember, rfl⟩ := Option.map_eq_some_iff.mp hvalue
      exact hj.member (List.mem_filter.mp (List.mem_of_mem_head? hmember)).1
    · cases h
  · cases h

end Decoding

namespace Decodes

open Decoding

variable {α : Type} {decode : Json → Option α} {Q : α → Prop} {given : Option Json}

/-- A text is one of its own texts. -/
theorem text : Decodes P Json.text? P := by
  intro j text hj h
  cases j with
  | string word =>
    obtain rfl := Option.some.inj h
    exact hj word List.mem_cons_self
  | _ => cases h

/-- Members are decoded one by one; their names are no matter. -/
theorem pairs (hdecode : Decodes P decode Q) {members : Members} {entries : List (String × α)}
    (hmembers : ∀ member ∈ members, member.2.Worded P)
    (h : members.mapM (fun entry => (decode entry.2).map (entry.1, ·)) = some entries) :
    ∀ entry ∈ entries, Q entry.2 := by
  induction members generalizing entries with
  | nil =>
    obtain rfl := Option.some.inj h
    exact fun _ hentry => absurd hentry List.not_mem_nil
  | cons member rest ih =>
    rw [List.mapM_cons] at h
    obtain ⟨first, hfirst, h⟩ := Option.bind_eq_some_iff.mp h
    obtain ⟨others, hothers, h⟩ := Option.bind_eq_some_iff.mp h
    obtain rfl := Option.some.inj h
    obtain ⟨value, hvalue, rfl⟩ := Option.map_eq_some_iff.mp hfirst
    intro entry hentry
    rcases List.mem_cons.mp hentry with rfl | hentry
    · exact hdecode (hmembers member List.mem_cons_self) hvalue
    · exact ih (fun m hm => hmembers m (List.mem_cons_of_mem _ hm)) hothers entry hentry

/-- A table has the words of its entries. -/
theorem table (hdecode : Decodes P decode Q) : Decodes P (table? decode) (Table.All Q) := by
  intro j t hj h
  cases j with
  | object members =>
    obtain ⟨entries, hentries, rfl⟩ := Option.map_eq_some_iff.mp h
    exact .ofPairs (hdecode.pairs (fun _ hmember => hj.member hmember) hentries)
  | _ => cases h

/-- A value that is required is decoded if there is a result at all. -/
theorem required (hdecode : Decodes P decode Q) (hgiven : ∀ value ∈ given, value.Worded P) {a : α}
    (h : Decoding.required decode given = some a) : Q a := by
  obtain ⟨value, hvalue, h⟩ := Option.bind_eq_some_iff.mp h
  exact hdecode (hgiven value hvalue) h

/-- A value that may be missing is decoded if it is given. -/
theorem optional (hdecode : Decodes P decode Q) (hgiven : ∀ value ∈ given, value.Worded P)
    {result : Option α} (h : Decoding.optional decode given = some result) :
    ∀ a ∈ result, Q a := by
  intro a ha
  unfold Decoding.optional at h
  split at h
  · obtain rfl := Option.some.inj h
    cases ha
  · obtain rfl := Option.some.inj h
    cases ha
  · next value _ =>
    obtain ⟨b, hb, rfl⟩ := Option.map_eq_some_iff.mp h
    obtain rfl := Option.some.inj ha
    exact hdecode (hgiven value rfl) hb

/-- Where it is missing, the default takes its place. -/
theorem orElse (hdecode : Decodes P decode Q) (hgiven : ∀ value ∈ given, value.Worded P)
    {default a : α} (hdefault : Q default) (h : Decoding.orElse default decode given = some a) :
    Q a := by
  cases given with
  | none =>
    obtain rfl := Option.some.inj h
    exact hdefault
  | some value => exact hdecode (hgiven value rfl) h

/-- The type of a value is read off a tag, and has its words. -/
theorem valueType : Decodes P ValueType.decode? (·.Worded P) := by
  intro j type hj h
  obtain ⟨tag, htext, htag⟩ := Option.bind_eq_some_iff.mp h
  exact ValueType.worded_of_ofTag? htag (text hj htext)

/-- A record is worded if what is built from worded fields is. -/
theorem record {fields : List (List String)} {build : List (Option Json) → Option α}
    (hbuild : ∀ given a, (∀ field ∈ given, ∀ value ∈ field, value.Worded P) →
      build given = some a → Q a) :
    Decodes P (fun j => record? fields j >>= build) Q := by
  intro j a hj h
  obtain ⟨given, hgiven, h⟩ := Option.bind_eq_some_iff.mp h
  exact hbuild given a (worded_of_record? hj hgiven) h

/-- An attribute entry has the words of its text. -/
theorem attributeInfo : Decodes P AttributeInfo.decode? (·.Worded P) := by
  refine record fun given info hfields h => ?_
  split at h
  · simp only [List.forall_mem_cons] at hfields
    obtain ⟨hname, htype, -⟩ := hfields
    simp only [Option.bind_eq_bind, Option.bind_eq_some_iff, Option.pure_def,
      Option.some.injEq] at h
    obtain ⟨name, hname', type, htype', _, -, rfl⟩ := h
    exact ⟨text.required hname hname', valueType.required htype htype'⟩
  · cases h

theorem attributes : Decodes P (table? AttributeInfo.decode?) (Table.All (·.Worded P)) :=
  attributeInfo.table

/-- The types that a property chooses among are texts. -/
theorem subtypeTable : Decodes P SubtypeTable.decode? (·.values.All P) := by
  intro j t hj h
  obtain ⟨entries, hentries, h⟩ := Option.bind_eq_some_iff.mp h
  have hvalues := text.table.table hj hentries
  split at h
  · obtain rfl := Option.some.inj h
    exact hvalues _ List.mem_cons_self
  · cases h

/-- An extension has the words of its type, if it has one, and of its attributes. -/
theorem extensionMapping : Decodes P ExtensionMapping.decode? (·.Worded P) := by
  refine record fun given e hfields h => ?_
  split at h
  · simp only [List.forall_mem_cons] at hfields
    obtain ⟨htype, hattributes, -⟩ := hfields
    simp only [Option.bind_eq_bind, Option.bind_eq_some_iff, Option.pure_def,
      Option.some.injEq] at h
    obtain ⟨typeName, htype', table, htable, rfl⟩ := h
    exact ⟨text.optional htype htype',
      attributes.orElse hattributes (fun _ he => absurd he List.not_mem_nil) htable⟩
  · cases h

/-- The mapping of an object type has the words of all its parts, and none of its own. -/
theorem objectMapping : Decodes P ObjectMapping.decode? (·.Worded P) := by
  refine record fun given o hfields h => ?_
  split at h
  · simp only [List.forall_mem_cons] at hfields
    obtain ⟨htype, hsubtypes, hextensions, hattributes, -⟩ := hfields
    simp only [Option.bind_eq_bind, Option.bind_eq_some_iff, Option.pure_def,
      Option.some.injEq] at h
    obtain ⟨typeName, htype', subtypes, hsubtypes', extensions, hextensions', table, htable,
      rfl⟩ := h
    exact ⟨text.required htype htype', subtypeTable.optional hsubtypes hsubtypes',
      extensionMapping.table.orElse hextensions (fun _ he => absurd he List.not_mem_nil)
        hextensions',
      attributes.orElse hattributes (fun _ he => absurd he List.not_mem_nil) htable⟩
  · cases h

theorem helperRelation : Decodes P HelperRelation.decode? (·.Worded P) := by
  refine record fun given r hfields h => ?_
  split at h
  · simp only [List.forall_mem_cons] at hfields
    obtain ⟨htype, howner, hhelper, -⟩ := hfields
    simp only [Option.bind_eq_bind, Option.bind_eq_some_iff, Option.pure_def,
      Option.some.injEq] at h
    obtain ⟨typeName, htype', ownerRole, howner', helperRole, hhelper', rfl⟩ := h
    exact ⟨text.required htype htype', text.required howner howner',
      text.required hhelper hhelper'⟩
  · cases h

theorem compositeMapping : Decodes P CompositeMapping.decode? (·.Worded P) := by
  refine record fun given c hfields h => ?_
  split at h
  · simp only [List.forall_mem_cons] at hfields
    obtain ⟨htype, hattributes, hrelation, -⟩ := hfields
    simp only [Option.bind_eq_bind, Option.bind_eq_some_iff, Option.pure_def,
      Option.some.injEq] at h
    obtain ⟨typeName, htype', table, htable, relation, hrelation', rfl⟩ := h
    exact ⟨text.required htype htype', attributes.required hattributes htable,
      helperRelation.required hrelation hrelation'⟩
  · cases h

theorem customKey : Decodes P CustomKey.decode? (·.Worded P) := by
  refine record fun given c hfields h => ?_
  split at h
  · simp only [List.forall_mem_cons] at hfields
    obtain ⟨htype, hname, -⟩ := hfields
    simp only [Option.bind_eq_bind, Option.bind_eq_some_iff, Option.pure_def,
      Option.some.injEq] at h
    obtain ⟨entityType, htype', nameAttribute, hname', rfl⟩ := h
    exact ⟨text.required htype htype', text.required hname hname'⟩
  · cases h

theorem keyValueMapping : Decodes P KeyValueMapping.decode? (·.Worded P) := by
  refine record fun given k hfields h => ?_
  split at h
  · simp only [List.forall_mem_cons] at hfields
    obtain ⟨htype, hvalue, hkeys, hrelation, hcustom, -⟩ := hfields
    simp only [Option.bind_eq_bind, Option.bind_eq_some_iff, Option.pure_def,
      Option.some.injEq] at h
    obtain ⟨type, htype', valueAttribute, hvalue', keys, hkeys', relation, hrelation', custom,
      hcustom', rfl⟩ := h
    exact ⟨valueType.required htype htype', text.required hvalue hvalue',
      text.table.required hkeys hkeys', helperRelation.required hrelation hrelation',
      customKey.optional hcustom hcustom'⟩
  · cases h

theorem dictionaryItem : Decodes P DictionaryItem.decode? (·.Worded P) := by
  refine record fun given i hfields h => ?_
  split at h
  · simp only [List.forall_mem_cons] at hfields
    obtain ⟨htype, hvalue, -⟩ := hfields
    simp only [Option.bind_eq_bind, Option.bind_eq_some_iff, Option.pure_def,
      Option.some.injEq] at h
    obtain ⟨entityType, htype', valueAttribute, hvalue', rfl⟩ := h
    exact ⟨text.required htype htype', text.required hvalue hvalue'⟩
  · cases h

theorem dictionaryMapping : Decodes P DictionaryMapping.decode? (·.Worded P) := by
  refine record fun given d hfields h => ?_
  split at h
  · simp only [List.forall_mem_cons] at hfields
    obtain ⟨hkey, hproperty, hrelation, hitems, -⟩ := hfields
    simp only [Option.bind_eq_bind, Option.bind_eq_some_iff, Option.pure_def,
      Option.some.injEq] at h
    obtain ⟨keyAttribute, hkey', propertyAttribute, hproperty', relation, hrelation', items,
      hitems', rfl⟩ := h
    exact ⟨text.required hkey hkey', text.required hproperty hproperty',
      helperRelation.required hrelation hrelation', dictionaryItem.table.required hitems hitems'⟩
  · cases h

end Decodes

/-- The texts in the documents that are filed under the names of their files. -/
def Stated (texts : Table String) (word : String) : Prop :=
  ∃ (document : DocumentName) (text : String) (json : Json),
    texts.get? document.fileName = some text ∧ Json.parse? Json.depthLimit text = some json ∧
      word ∈ json.texts

/-- A document that is decoded holds what its text states. -/
theorem decodeDocument_ok {α : Type} {texts : Table String} {name : DocumentName}
    {decode : Json → Option α} {Q : α → Prop} (hdecode : Decodes (Stated texts) decode Q) {a : α}
    (h : decodeDocument texts name decode = .ok a) : Q a := by
  rw [decodeDocument] at h
  split at h
  · cases h
  · next text htext =>
    split at h
    · cases h
    · next document hdocument =>
      obtain rfl := Except.ok.inj h
      obtain ⟨json, hjson, hdecoded⟩ := Option.bind_eq_some_iff.mp hdocument
      exact hdecode (fun word hword => ⟨name, text, json, htext, hjson, hword⟩) hdecoded

/-- A mapping that is read from texts says nothing that does not stand in them. -/
theorem Mapping.worded_ofTexts {texts : Table String} {m : Mapping} (h : ofTexts texts = .ok m) :
    m.Worded (Stated texts) := by
  obtain ⟨d, hsources, rfl, -⟩ := assemble_eq_ok.mp h
  have hobjects {name : DocumentName} {t : Table ObjectMapping}
      (ht : decodeDocument texts name (Decoding.table? ObjectMapping.decode?) = .ok t) :=
    decodeDocument_ok Decodes.objectMapping.table ht
  simp only [Sources.ofTexts, Documents.sources, Sources.mk.injEq] at hsources
  obtain ⟨-, hdomain, hrelationship, hobservables, hmeta, hcommon, hcomposites, hroles, hkeyValues,
    hdictionary⟩ := hsources
  exact
    { objects := (((hobjects hdomain).append (hobjects hrelationship)).append
        (hobjects hobservables)).append (hobjects hmeta)
      common := decodeDocument_ok Decodes.attributes hcommon
      composites := decodeDocument_ok Decodes.compositeMapping.table hcomposites
      roles := decodeDocument_ok Decodes.text.table.table hroles
      keyValues := decodeDocument_ok Decodes.keyValueMapping.table hkeyValues
      dictionary := decodeDocument_ok Decodes.dictionaryMapping hdictionary }

/-! ## Answers -/

namespace Mapping.Worded

variable {m : Mapping} {stixType word : String}

/-- The mapping of an object type has only words of the mapping. -/
theorem object (hm : m.Worded P) {o : ObjectMapping} (h : m.object stixType = .ok o) :
    o.Worded P :=
  hm.objects.get? (found_eq_ok.mp h)

/-- The supertype of a type stands in the entry of that type. -/
theorem supertype (hm : m.Worded P) (h : m.supertype stixType = .ok word) : P word := by
  obtain ⟨o, ho, h⟩ := except_bind_eq_ok.mp h
  obtain rfl := Except.ok.inj h
  exact (hm.object ho).typeName

/-- Every type that an object may be stored as stands in its entry: as its own type, as one of its
subtypes or as that of an extension. -/
theorem relationTypes {o : ObjectMapping} (ho : o.Worded P) (h : word ∈ o.relationTypes) :
    P word := by
  rcases List.mem_append.mp h with h | h
  · cases hsubtypes : o.subtypes with
    | none =>
      rw [hsubtypes] at h
      obtain rfl := List.mem_singleton.mp h
      exact ho.typeName
    | some subtypes =>
      rw [hsubtypes] at h
      obtain ⟨entry, hentry, rfl⟩ := List.mem_map.mp h
      exact ho.subtypes subtypes hsubtypes entry hentry
  · obtain ⟨entry, hentry, htype⟩ := List.mem_filterMap.mp h
    exact (ho.extensions entry hentry).typeName word htype

/-- Whatever chooses the type of an object, it is one of those. -/
theorem targetType? (hm : m.Worded P) {stixId : String} {properties : Members}
    {extensions : Option Members}
    (h : m.targetType? stixId stixType properties extensions = .ok (some word)) : P word := by
  cases ho : m.objects.get? stixType with
  | none =>
    unfold Mapping.targetType? at h
    rw [ho] at h
    cases h
  | some o => exact relationTypes (hm.objects.get? ho) (mem_relationTypes_of_targetType? ho h)

/-- An attribute is common to all types or stands in the entry of the type. -/
theorem attribute? (hm : m.Worded P) {property : String} {info : AttributeInfo}
    (h : m.attribute? stixType property = .ok (some info)) : info.Worded P := by
  unfold Mapping.attribute? at h
  split at h
  · next hcommon =>
    obtain rfl := Option.some.inj (Except.ok.inj h)
    exact hm.common.get? hcommon
  · obtain ⟨o, ho, h⟩ := except_bind_eq_ok.mp h
    exact (hm.object ho).attributes.get? (Except.ok.inj h)

/-- An attribute of an extension stands in the entry of that extension. -/
theorem extensionAttribute? (hm : m.Worded P) {extension property : String} {info : AttributeInfo}
    (h : m.extensionAttribute? stixType extension property = .ok (some info)) :
    info.Worded P := by
  obtain ⟨o, ho, h⟩ := except_bind_eq_ok.mp h
  obtain ⟨e, he, h⟩ := except_bind_eq_ok.mp h
  have hextension := (hm.object ho).extensions.get? (found_eq_ok.mp he)
  exact hextension.attributes.get? (Except.ok.inj h)

/-- A role stands in the roles of its relation type. -/
theorem role (hm : m.Worded P) {relationType property : String}
    (h : m.role relationType property = .ok word) : P word := by
  obtain ⟨roles, hroles, hrole⟩ := Option.bind_eq_some_iff.mp (found_eq_ok.mp h)
  exact (hm.roles.get? hroles).get? hrole

theorem composite (hm : m.Worded P) {schema : String} {c : CompositeMapping}
    (h : m.composite schema = .ok c) : c.Worded P :=
  hm.composites.get? (found_eq_ok.mp h)

/-- A field of a composite stands in the entry of its schema. -/
theorem compositeAttribute (hm : m.Worded P) {schema field : String} {info : AttributeInfo}
    (h : m.compositeAttribute schema field = .ok info) : info.Worded P := by
  obtain ⟨c, hc, h⟩ := except_bind_eq_ok.mp h
  exact (hm.composite hc).attributes.get? (found_eq_ok.mp h)

theorem keyValue (hm : m.Worded P) {schema : String} {k : KeyValueMapping}
    (h : m.keyValue schema = .ok k) : k.Worded P :=
  hm.keyValues.get? (found_eq_ok.mp h)

theorem dictionaryItem (hm : m.Worded P) {type : ValueType} {item : DictionaryItem}
    (h : m.dictionaryItem type = .ok item) : item.Worded P :=
  hm.dictionary.items.get? (found_eq_ok.mp h)

end Mapping.Worded

end ThreatGraph
