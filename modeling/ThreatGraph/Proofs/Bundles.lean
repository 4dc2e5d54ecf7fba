import ThreatGraph.Proofs.Adoption

/-!
# Bundles that are read

A bundle is read whole or not at all. The value of the text must list entries (`Stix.Lists`), and
each of them must be an object that can be adopted: why one cannot is said by `Stix.Unfit`. The
entries are taken in order, so what is reported is the first that is unfit (`readBundle_reads`).
Objects that are adopted must not repeat a name, and a value that was read from a text has no object
that does (`Json.distinct_of_read?`).

What is wrong with an entry is read off its shape (`adopt_eq_error_iff`). For the list the induction
carries the index along: an entry is the offender if it is refused and all before it are not
(`adoptAll_eq_error`).
-/

namespace ThreatGraph

/-! ## Values without repeated names -/

namespace Json

/-- No object in the value repeats a name. -/
inductive Distinct : Json → Prop
  | null : Distinct .null
  | bool (flag : Bool) : Distinct (.bool flag)
  | integer (n : Int) : Distinct (.integer n)
  | float (x : Binary64) : Distinct (.float x)
  | string (text : String) : Distinct (.string text)
  | array {items : List Json} : (∀ item ∈ items, Distinct item) → Distinct (.array items)
  | object {members : Members} : (Table.names members).Nodup →
      (∀ member ∈ members, Distinct member.2) → Distinct (.object members)

mutual

/-- Merging the members of objects leaves no name twice, at any level. -/
theorem distinct_merged : ∀ value : Json, value.merged.Distinct
  | .null => .null
  | .bool flag => .bool flag
  | .integer n => .integer n
  | .float x => .float x
  | .string text => .string text
  | .array items => .array (distinct_mergedItems items)
  | .object members =>
    .object (Table.nodup_ofPairs _) fun member hmember =>
      distinct_mergedMembers members member (Table.mem_ofPairs hmember)

theorem distinct_mergedItems : ∀ items : List Json, ∀ item ∈ mergedItems items, item.Distinct
  | [] => nofun
  | first :: rest => by
    intro item hitem
    rw [mergedItems] at hitem
    rcases List.mem_cons.mp hitem with rfl | hitem
    · exact distinct_merged first
    · exact distinct_mergedItems rest item hitem

/-- So it does in the members of an object, which are merged as well. -/
theorem distinct_mergedMembers : ∀ members : List (String × Json),
    ∀ member ∈ mergedMembers members, member.2.Distinct
  | [] => nofun
  | (name, value) :: rest => by
    intro member hmember
    rw [mergedMembers] at hmember
    rcases List.mem_cons.mp hmember with rfl | hmember
    · exact distinct_merged value
    · exact distinct_mergedMembers rest member hmember

end

theorem distinct_of_read? {limit : Nat} {text : String} {value : Json}
    (h : read? limit text = some value) : value.Distinct := by
  obtain ⟨parsed, -, rfl⟩ := Option.map_eq_some_iff.mp h
  exact distinct_merged parsed

end Json

namespace Stix

variable {source : String} {start : Int} {value entry : Json} {entries : List Json}

/-! ## Entries -/

/-- The value lists the entries: it is the list of them, or a bundle with this list, or a bundle
without a list, which has no entries. -/
inductive Lists : Json → List Json → Prop
  | array {entries : List Json} : Lists (.array entries) entries
  | bundle {bundle : Members} {entries : List Json} : bundle.text? "type" = some "bundle" →
      bundle.get? "objects" = some (.array entries) → Lists (.object bundle) entries
  | empty {bundle : Members} : bundle.text? "type" = some "bundle" →
      bundle.get? "objects" = none → Lists (.object bundle) []

/-- A value has entries exactly if it lists some: it is a list, or an object that holds one. -/
theorem entriesOf_eq_ok : entriesOf source value = .ok entries ↔ Lists value entries := by
  constructor
  · intro h
    unfold entriesOf at h
    split at h
    · obtain rfl := Except.ok.inj h
      exact .array
    · next bundle =>
      split at h
      · next htype =>
        split at h
        · next hnone =>
          obtain rfl := Except.ok.inj h
          exact .empty htype hnone
        · next found hfound =>
          obtain rfl := Except.ok.inj h
          exact .bundle htype hfound
        · cases h
      · cases h
    · cases h
  · rintro (_ | ⟨htype, hentries⟩ | ⟨htype, hnone⟩)
    · rfl
    · rw [entriesOf, if_pos htype, hentries]
    · rw [entriesOf, if_pos htype, hnone]

/-- A value lists the same entries in whichever way this is found out. -/
theorem Lists.unique {others : List Json} (h : Lists value entries) (h' : Lists value others) :
    entries = others := by
  have hentries : entriesOf "" value = .ok entries := entriesOf_eq_ok.mpr h
  have hothers : entriesOf "" value = .ok others := entriesOf_eq_ok.mpr h'
  exact Except.ok.inj (hentries.symm.trans hothers)

theorem entriesOf_eq_error {defect : BundleDefect} (h : entriesOf source value = .error defect) :
    defect = .notABundle source := by
  unfold entriesOf at h
  split at h
  · cases h
  · split at h
    · split at h
      · cases h
      · cases h
      · exact (Except.error.inj h).symm
    · exact (Except.error.inj h).symm
  · exact (Except.error.inj h).symm

/-- The entries of a value that repeats no names repeat none. -/
theorem Lists.distinct (h : Lists value entries) (hvalue : value.Distinct) :
    ∀ entry ∈ entries, entry.Distinct := by
  cases h with
  | array =>
    cases hvalue with
    | array hitems => exact hitems
  | bundle htype hentries =>
    cases hvalue with
    | object _ hmembers =>
      have hlist := hmembers _ (Table.mem_of_get? hentries)
      cases hlist with
      | array hitems => exact hitems
  | empty _ _ => exact nofun

/-- Why an entry cannot be used: it is no object, or one that is not adopted. -/
inductive Unfit : Json → EntryDefect → Prop
  | notAnObject {entry : Json} : entry.members? = none → Unfit entry .notAnObject
  | refused {object : Members} {defect : EntryDefect} : Refused object defect →
      Unfit (.object object) defect

/-- An entry is refused exactly if it is unfit, and for the reason that makes it so. -/
theorem adopt_eq_error_iff (hentry : entry.Distinct) {defect : EntryDefect} :
    adopt start entry = .error defect ↔ Unfit entry defect := by
  cases hentry with
  | @object members hdistinct _ =>
    rw [adopt_eq_error, modernLayout_eq_error hdistinct]
    constructor
    · exact .refused
    · rintro (h | h)
      · cases h
      · exact h
  | _ =>
    change Except.error EntryDefect.notAnObject = .error defect ↔ _
    rw [Except.error.injEq]
    constructor
    · rintro rfl
      exact .notAnObject rfl
    · rintro (_ | _)
      rfl

/-- An entry is adopted unless something is wrong with it. -/
theorem exists_adopt_iff (hentry : entry.Distinct) :
    (∃ object, adopt start entry = .ok object) ↔ ∀ defect, ¬ Unfit entry defect := by
  have hunfit : ∀ defect, Unfit entry defect ↔ adopt start entry = .error defect :=
    fun _ => (adopt_eq_error_iff hentry).symm
  simp only [hunfit]
  cases adopt start entry <;> simp

/-! ## All entries -/

/-- All entries become objects exactly if each of them does. -/
theorem adoptAll_eq_ok {index : Nat} {objects : List Members} :
    adoptAll source start index entries = .ok objects ↔
      List.Forall₂ (fun entry object => adopt start entry = .ok object) entries objects := by
  induction entries generalizing index objects with
  | nil =>
    rw [List.forall₂_nil_left_iff]
    exact ⟨fun h => (Except.ok.inj h).symm, fun h => congrArg Except.ok h.symm⟩
  | cons entry rest ih =>
    rw [adoptAll, List.forall₂_cons_left_iff]
    simp only [except_bind_eq_ok, mapError_eq_ok, ih]
    constructor
    · rintro ⟨first, hfirst, others, hothers, h⟩
      exact ⟨first, others, hfirst, hothers, (Except.ok.inj h).symm⟩
    · rintro ⟨first, others, hfirst, hothers, rfl⟩
      exact ⟨first, hfirst, others, hothers, rfl⟩

/-- What is reported is the first entry that is not adopted. -/
theorem adoptAll_eq_error {index : Nat} {defect : BundleDefect} :
    adoptAll source start index entries = .error defect ↔
      ∃ i entry found, entries[i]? = some entry ∧ adopt start entry = .error found ∧
        (∀ j < i, ∀ earlier, entries[j]? = some earlier →
          ∃ object, adopt start earlier = .ok object) ∧
        defect = .entry source (index + i) found := by
  induction entries generalizing index with
  | nil =>
    constructor
    · nofun
    · rintro ⟨i, entry, found, hentry, -⟩
      cases hentry
  | cons first rest ih =>
    rw [adoptAll]
    simp only [except_bind_eq_error, mapError_eq_ok, mapError_eq_error, ih]
    constructor
    · rintro (⟨found, hfound, rfl⟩ | ⟨object, hfirst, h⟩)
      · exact ⟨0, first, found, rfl, hfound, nofun, rfl⟩
      · -- the offender is further back, one place later than the induction hypothesis counts
        rcases h with ⟨i, entry, found, hentry, hfound, hbefore, rfl⟩ | ⟨_, -, h⟩
        · refine ⟨i + 1, entry, found, hentry, hfound, ?_, ?_⟩
          · rintro (_ | j) hj earlier hearlier
            · obtain rfl := Option.some.inj hearlier
              exact ⟨object, hfirst⟩
            · exact hbefore j (Nat.lt_of_succ_lt_succ hj) earlier hearlier
          · rw [Nat.add_right_comm, Nat.add_assoc]
        · cases h
    · rintro ⟨_ | i, entry, found, hentry, hfound, hbefore, rfl⟩
      · obtain rfl := Option.some.inj hentry
        exact .inl ⟨found, hfound, rfl⟩
      · obtain ⟨object, hfirst⟩ := hbefore 0 (Nat.succ_pos i) first rfl
        refine .inr ⟨object, hfirst, .inl ⟨i, entry, found, hentry, hfound, ?_, ?_⟩⟩
        · exact fun j hj earlier hearlier => hbefore (j + 1) (Nat.succ_lt_succ hj) earlier hearlier
        · rw [Nat.add_right_comm, Nat.add_assoc]

/-- All entries are adopted if each of them is. -/
theorem exists_adoptAll_iff {index : Nat} :
    (∃ objects, adoptAll source start index entries = .ok objects) ↔
      ∀ entry ∈ entries, ∃ object, adopt start entry = .ok object := by
  constructor
  · rintro ⟨objects, hobjects⟩ entry hentry
    have hadopted := adoptAll_eq_ok.mp hobjects
    obtain ⟨i, hi, rfl⟩ := List.getElem_of_mem hentry
    exact ⟨objects.get ⟨i, hadopted.length_eq ▸ hi⟩, hadopted.get hi _⟩
  · intro hall
    rcases hresult : adoptAll source start index entries with defect | objects
    · obtain ⟨i, entry, found, hentry, hfound, -⟩ := adoptAll_eq_error.mp hresult
      obtain ⟨object, hobject⟩ := hall entry (List.mem_of_getElem? hentry)
      cases hfound.symm.trans hobject
    · exact ⟨objects, rfl⟩

/-! ## Texts -/

section Texts

variable {text : String}

/-- What is read from the text of a list of entries is what these become. -/
theorem readBundle_eq (htext : Json.read? Json.depthLimit text = some value)
    (h : Lists value entries) : readBundle source start text = adoptAll source start 0 entries := by
  rw [readBundle, htext]
  dsimp only
  rw [entriesOf_eq_ok.mpr h]
  rfl

theorem readBundle_of_not_lists (htext : Json.read? Json.depthLimit text = some value)
    (h : ∀ entries, ¬ Lists value entries) :
    readBundle source start text = .error (.notABundle source) := by
  rw [readBundle, htext]
  dsimp only
  rcases hentries : entriesOf source value with defect | entries
  · rw [entriesOf_eq_error hentries]
    rfl
  · exact absurd (entriesOf_eq_ok.mp hentries) (h entries)

/-- What becomes of a text that states a value. -/
structure Reads (source : String) (start : Int) (text : String) (value : Json) : Prop where
  /-- the text is accepted if the value lists entries that can all be adopted -/
  accepts : (∃ objects, readBundle source start text = .ok objects) ↔
    ∃ entries, Lists value entries ∧ ∀ entry ∈ entries, ∃ object, adopt start entry = .ok object
  /-- then there is one object for each entry, in order -/
  adopted : ∀ objects, readBundle source start text = .ok objects → ∃ entries,
    Lists value entries ∧
      List.Forall₂ (fun entry object => adopt start entry = .ok object) entries objects
  /-- an entry is refused if it is unfit, and for that reason -/
  refused : ∀ entries, Lists value entries → ∀ entry ∈ entries, ∀ defect,
    adopt start entry = .error defect ↔ Unfit entry defect
  /-- a value that lists no entries is reported -/
  shapeless : (∀ entries, ¬ Lists value entries) →
    readBundle source start text = .error (.notABundle source)
  /-- of a value that does list entries the first one that is unfit is reported -/
  offender : ∀ entries, Lists value entries → ∀ defect,
    readBundle source start text = .error defect ↔
      ∃ i entry found, entries[i]? = some entry ∧ Unfit entry found ∧
        (∀ j < i, ∀ earlier, entries[j]? = some earlier → ∀ other, ¬ Unfit earlier other) ∧
        defect = .entry source i found
  /-- whether a bundle lists the entries or they are listed bare makes no difference -/
  same : ∀ text' value', Json.read? Json.depthLimit text' = some value' → ∀ entries,
    Lists value entries → Lists value' entries →
      readBundle source start text = readBundle source start text'

/-- **Bundles are read whole or not at all.** A text that states a value is accepted exactly if the
value is a list of entries or a bundle with such a list, or with none, and every entry is adopted;
the objects are the adopted entries in order, bundle or not. Any other value is reported as no
bundle, and where entries are unfit the first of them is reported by its index, for its own reason,
whatever comes later. -/
theorem readBundle_reads (htext : Json.read? Json.depthLimit text = some value) :
    Reads source start text value where
  accepts := by
    by_cases hlists : ∃ entries, Lists value entries
    · obtain ⟨entries, hentries⟩ := hlists
      rw [readBundle_eq htext hentries, exists_adoptAll_iff]
      refine ⟨fun hall => ⟨entries, hentries, hall⟩, ?_⟩
      rintro ⟨others, hothers, hall⟩
      obtain rfl := hentries.unique hothers
      exact hall
    · rw [not_exists] at hlists
      rw [readBundle_of_not_lists htext hlists]
      constructor
      · nofun
      · rintro ⟨entries, hentries, -⟩
        exact absurd hentries (hlists entries)
  adopted objects hobjects := by
    by_cases hlists : ∃ entries, Lists value entries
    · obtain ⟨entries, hentries⟩ := hlists
      rw [readBundle_eq htext hentries] at hobjects
      exact ⟨entries, hentries, adoptAll_eq_ok.mp hobjects⟩
    · rw [readBundle_of_not_lists htext (not_exists.mp hlists)] at hobjects
      cases hobjects
  refused entries hentries entry hentry defect :=
    adopt_eq_error_iff (hentries.distinct (Json.distinct_of_read? htext) entry hentry)
  shapeless hnone := readBundle_of_not_lists htext hnone
  offender entries hentries defect := by
    have hdistinct := hentries.distinct (Json.distinct_of_read? htext)
    -- that an entry is refused is put in terms of its shape, place by place
    have hunfit : ∀ {i : Nat} {entry : Json} {found : EntryDefect}, entries[i]? = some entry →
        (adopt start entry = .error found ↔ Unfit entry found) :=
      fun hentry => adopt_eq_error_iff (hdistinct _ (List.mem_of_getElem? hentry))
    have hfit : ∀ {i : Nat} {entry : Json}, entries[i]? = some entry →
        ((∃ object, adopt start entry = .ok object) ↔ ∀ other, ¬ Unfit entry other) :=
      fun hentry => exists_adopt_iff (hdistinct _ (List.mem_of_getElem? hentry))
    rw [readBundle_eq htext hentries, adoptAll_eq_error]
    simp only [Nat.zero_add]
    constructor
    · rintro ⟨i, entry, found, hentry, hfound, hbefore, rfl⟩
      refine ⟨i, entry, found, hentry, (hunfit hentry).mp hfound, ?_, rfl⟩
      exact fun j hj earlier hearlier => (hfit hearlier).mp (hbefore j hj earlier hearlier)
    · rintro ⟨i, entry, found, hentry, hfound, hbefore, rfl⟩
      refine ⟨i, entry, found, hentry, (hunfit hentry).mpr hfound, ?_, rfl⟩
      exact fun j hj earlier hearlier => (hfit hearlier).mpr (hbefore j hj earlier hearlier)
  same text' value' htext' entries hentries hentries' := by
    rw [readBundle_eq htext hentries, readBundle_eq htext' hentries']

end Texts

/-- A bundle with a tool, a number, and a marking definition without a type. -/
def mixedBundle : String :=
  "\x7b\"type\": \"bundle\", \"objects\": [\x7b\"type\": \"tool\"\x7d, 5, " ++
    "\x7b\"type\": \"marking-definition\", \"definition\": 1\x7d]\x7d"

/-- What is wrong with the bundle. -/
def mixedDefect? : Option BundleDefect :=
  match readBundle "input" 0 mixedBundle with
  | .ok _ => none
  | .error defect => some defect

/-- The number is reported, not the marking definition after it, and the tool before it is fit. -/
theorem readBundle_reads_mixed : ∃ value entries tool number,
    Json.read? Json.depthLimit mixedBundle = some value ∧ Lists value entries ∧
    readBundle "input" 0 mixedBundle = .error (.entry "input" 1 .notAnObject) ∧
    entries[0]? = some tool ∧ (∀ defect, ¬ Unfit tool defect) ∧
    entries[1]? = some number ∧ Unfit number .notAnObject := by
  have hread : (Json.read? Json.depthLimit mixedBundle).isSome = true := by decide +kernel
  have hdefect : mixedDefect? = some (.entry "input" 1 .notAnObject) := by decide +kernel
  have hrun : readBundle "input" 0 mixedBundle = .error (.entry "input" 1 .notAnObject) := by
    rw [mixedDefect?] at hdefect
    split at hdefect
    · cases hdefect
    · next defect herror => rw [herror, Option.some.inj hdefect]
  obtain ⟨value, htext⟩ := Option.isSome_iff_exists.mp hread
  have hreads : Reads "input" 0 mixedBundle value := readBundle_reads htext
  obtain ⟨entries, hlists⟩ : ∃ entries, Lists value entries := by
    by_contra hnone
    have hshape := hreads.shapeless (not_exists.mp hnone)
    rw [hrun] at hshape
    cases hshape
  obtain ⟨i, number, found, hnumber, hunfit, hbefore, heq⟩ :=
    (hreads.offender entries hlists _).mp hrun
  obtain ⟨-, rfl, rfl⟩ := BundleDefect.entry.inj heq
  have hlength : 0 < entries.length :=
    Nat.lt_of_succ_lt (List.getElem?_eq_some_iff.mp hnumber).1
  have htool := List.getElem?_eq_getElem hlength
  exact ⟨value, entries, _, number, htext, hlists, hrun, htool,
    hbefore 0 Nat.one_pos _ htool, hnumber, hunfit⟩

end Stix

end ThreatGraph
