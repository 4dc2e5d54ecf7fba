import ThreatGraph.Proofs.Agreement
import ThreatGraph.Proofs.Failure

/-!
# Types that are inferred

The values of a dictionary are typed by their shape and then read like values of a declared type. A
text, a flag or a number is of the type that its shape has, and so are the elements of a list that
are all of one shape. There is one exception: integers are longs by their shape, but a long has 64
bits with sign, so an integer beyond them is typed and then refused. `inferred_types_fit` says so of
single values and of dictionaries, and `inferType_overflows` shows such an integer. Numbers that are
too large for a word without sign are no integers any more and are kept as doubles.
-/

namespace ThreatGraph

open Naming

variable {m : Mapping} {owner : Owner} {v : Variables}

/-! ## Values of one shape -/

/-- The integer that a value is. -/
def Json.integer? : Json → Option Int
  | .integer n => some n
  | _ => none

/-- The integers that a value or one of its elements is. -/
def Json.integers : Json → List Int
  | .array items => items.filterMap Json.integer?
  | raw => raw.integer?.toList

/-- A value that is a scalar by its shape, or a list of values that are all of one scalar type. -/
inductive Json.Uniform : Json → Prop where
  | scalar {raw : Json} {s : Scalar} : raw.inferType = .ok (.scalar s) → Uniform raw
  | list {items : List Json} {s : Scalar} :
    (∀ item ∈ items, item.inferType = .ok (.scalar s)) → Uniform (.array items)

/-- All integers in the value fit a word with sign. -/
def Json.FitsLong (raw : Json) : Prop := ∀ n ∈ raw.integers, Word.fitsSigned n = true

/-! ## Single values -/

namespace Json

/-- A list has no scalar type. -/
theorem inferType_array_ne_scalar {items : List Json} {s : Scalar} :
    (array items).inferType ≠ .ok (.scalar s) := by
  intro h
  cases items with
  | nil => cases h
  | cons first rest =>
    obtain ⟨element, -, h⟩ := except_bind_eq_ok.mp h
    split at h
    · cases h
    · cases h

/-- The type of a list whose elements are of one scalar type. -/
theorem inferType_uniform {items : List Json} {s : Scalar} {type : ValueType}
    (hitems : ∀ item ∈ items, item.inferType = .ok (.scalar s))
    (h : (array items).inferType = .ok type) :
    type = .list (.scalar s) ∨ items = [] ∧ type = .list (.scalar .string) := by
  cases items with
  | nil =>
    cases h
    exact .inr ⟨rfl, rfl⟩
  | cons first rest =>
    obtain ⟨element, hfirst, h⟩ := except_bind_eq_ok.mp h
    obtain rfl := Except.ok.inj ((hitems first List.mem_cons_self).symm.trans hfirst)
    exact .inl (Except.ok.inj h).symm

/-- The integers of a value that is typed as a scalar. -/
theorem integers_scalar {raw : Json} {s : Scalar} (h : raw.inferType = .ok (.scalar s)) :
    raw.integers = raw.integer?.toList := by
  cases raw with
  | array items => exact absurd h inferType_array_ne_scalar
  | _ => rfl

/-- A list of scalars of one type has integers that fit if each item has. -/
theorem fitsLong_array {items : List Json} {s : Scalar}
    (hitems : ∀ item ∈ items, item.inferType = .ok (.scalar s)) :
    (array items).FitsLong ↔ ∀ item ∈ items, item.FitsLong := by
  have hmem {n : Int} : n ∈ (array items).integers ↔ ∃ item ∈ items, n ∈ item.integers := by
    rw [integers, List.mem_filterMap]
    refine exists_congr fun item => and_congr_right fun hitem => ?_
    rw [integers_scalar (hitems item hitem), Option.mem_toList]
  constructor
  · intro h item hitem n hn
    exact h n (hmem.mpr ⟨item, hitem, hn⟩)
  · intro h n hn
    obtain ⟨item, hitem, hn⟩ := hmem.mp hn
    exact h item hitem n hn

end Json

/-- A value is read under the type of its shape, unless it is an integer that is too large. -/
theorem Literal.read_inferred {raw : Json} {s : Scalar} (h : raw.inferType = .ok (.scalar s)) :
    (∃ literal, read s raw = .ok literal) ↔ raw.FitsLong := by
  rw [Json.FitsLong, Json.integers_scalar h]
  cases raw with
  | null => cases h
  | bool flag =>
    cases h
    simp [read, Json.integer?]
  | integer n =>
    cases h
    -- an integer is a long whatever its size, so this is the one shape that may not fit
    by_cases hfits : Word.fitsSigned n = true
    · simp [read, readLong, Json.integer?, Option.filter_some, hfits, Except.map]
    · simp [read, readLong, Json.integer?, Option.filter_some, hfits, Except.map]
  | float x =>
    cases h
    simp [read, readDouble, Json.integer?, Except.map]
  | string text =>
    rw [Json.inferType] at h
    split at h
    · next t htime =>
      cases h
      simp [read, htime, Json.integer?]
    · cases h
      simp [read, Json.integer?]
  | array items => exact absurd h Json.inferType_array_ne_scalar
  | object members => cases h

namespace ValueType

/-- A scalar has the shape of its type exactly if it can be read. -/
theorem check_scalar_iff {s : Scalar} {raw : Json} :
    (scalar s).check raw = .ok () ↔ ∃ literal, Literal.read s raw = .ok literal := by
  rw [check]
  cases Literal.read s raw <;> simp [Except.map]

/-- A check of all items succeeds exactly if it does for each. -/
theorem forM_eq_ok_iff {α ε : Type} {f : α → Except ε Unit} {items : List α} :
    items.forM f = .ok () ↔ ∀ item ∈ items, f item = .ok () := by
  induction items with
  | nil => simp [List.forM, pure, Except.pure]
  | cons item rest ih =>
    rw [List.forall_mem_cons, ← ih]
    change (f item >>= fun _ => rest.forM f) = .ok () ↔ _
    rw [except_bind_eq_ok]
    exact ⟨fun ⟨_, hitem, hrest⟩ => ⟨hitem, hrest⟩, fun ⟨hitem, hrest⟩ => ⟨(), hitem, hrest⟩⟩

/-- A value of one shape fits the type that it has by its shape, exactly if no integer in it is too
large. -/
theorem check_inferred {raw : Json} {type : ValueType} (huniform : raw.Uniform)
    (h : raw.inferType = .ok type) :
    type.elementType.isPrimitive = true ∧ (type.check raw = .ok () ↔ raw.FitsLong) := by
  cases huniform with
  | @scalar raw s hscalar =>
    obtain rfl := Except.ok.inj (hscalar.symm.trans h)
    exact ⟨rfl, check_scalar_iff.trans (Literal.read_inferred hscalar)⟩
  | @list items s hitems =>
    rcases Json.inferType_uniform hitems h with rfl | ⟨rfl, rfl⟩
    · have hitem : ∀ item ∈ items, ((scalar s).check item = .ok () ↔ item.FitsLong) :=
        fun item hmem => check_scalar_iff.trans (Literal.read_inferred (hitems item hmem))
      refine ⟨rfl, ?_⟩
      rw [check, forM_eq_ok_iff, forall₂_congr hitem]
      exact (Json.fitsLong_array hitems).symm
    · exact ⟨rfl, fun _ n hn => absurd hn List.not_mem_nil, fun _ => rfl⟩

end ValueType

/-! ## Dictionaries -/

/-- A dictionary can hold the value: it is a literal or a list of literals by its shape, there is a
place for literals of its type, and it fits the type. -/
structure Mapping.Holds (m : Mapping) (raw : Json) (type : ValueType) (item : DictionaryItem) :
    Prop where
  inferred : raw.inferType = .ok type
  primitive : type.elementType.isPrimitive = true
  place : m.dictionary.items.get? type.elementType.tag = some item
  fits : type.check raw = .ok ()

/-- Scalars that can be read are converted without drawing a variable. -/
theorem convertItems_literals {s : Scalar} {items : List Json}
    (h : ∀ item ∈ items, ∃ literal, Literal.read s item = .ok literal) :
    ∃ c, (convertItems m owner (.scalar s) items).outcome v = (.ok c, v) := by
  induction items with
  | nil =>
    rw [convertItems]
    exact ⟨_, rfl⟩
  | cons item rest ih =>
    obtain ⟨⟨literal, hliteral⟩, hrest⟩ := List.forall_mem_cons.mp h
    obtain ⟨others, hothers⟩ := ih hrest
    have hfirst : (convertValue m owner (.scalar s) item).outcome v =
        (.ok { literals := [literal.text] }, v) := by
      rw [convertValue, hliteral]
      rfl
    rw [convertItems]
    exact ⟨_, bind_eq_ok.mpr ⟨_, v, hfirst, bind_eq_ok.mpr ⟨others, v, hothers, rfl⟩⟩⟩

/-- Literals and lists of them are converted exactly if they fit. -/
theorem convertValue_literals {type : ValueType} (htype : type.elementType.isPrimitive = true)
    {raw : Json} :
    (∃ c w, (convertValue m owner type raw).outcome v = (.ok c, w)) ↔ type.check raw = .ok () := by
  cases type with
  | scalar s =>
    rw [ValueType.check_scalar_iff]
    constructor
    · rintro ⟨c, w, h⟩
      obtain ⟨literal, hliteral, -⟩ := convertValue_scalar_ok h
      exact ⟨literal, hliteral⟩
    · rintro ⟨literal, hliteral⟩
      rw [convertValue, hliteral]
      exact ⟨_, v, rfl⟩
  | list element =>
    cases element with
    | scalar s =>
      constructor
      · rintro ⟨c, w, h⟩
        obtain ⟨items, rfl, hcheck, -⟩ := convertValue_list_ok h
        exact hcheck
      · intro hcheck
        cases raw with
        | array items =>
          -- a list fits if its elements do, and each of them is then read
          have hitems : ∀ item ∈ items, ∃ literal, Literal.read s item = .ok literal := by
            intro item hmem
            rw [ValueType.check, ValueType.forM_eq_ok_iff] at hcheck
            exact ValueType.check_scalar_iff.mp (hcheck item hmem)
          obtain ⟨c, hc⟩ := convertItems_literals (m := m) (v := v) hitems
          rw [convertValue, hcheck]
          exact ⟨c, v, hc⟩
        | _ => cases hcheck
    | _ => cases htype
  | _ => cases htype

/-- An entry of a dictionary is converted if its value is and the rest is. -/
theorem convertEntries_cons_succeeds {ownerVar key : String} {raw : Json}
    {rest : List (String × Json)} {type : ValueType} {item : DictionaryItem} {c : Converted}
    {others : Attachments} {u w : Variables} (htype : raw.inferType = .ok type)
    (hprimitive : type.elementType.isPrimitive = true) (hitem : m.dictionaryItem type = .ok item)
    (hvalue : (convertValue m owner type raw).outcome v = (.ok c, u))
    (hrest : (convertEntries m owner ownerVar rest).outcome ⟨u.issued + 2⟩ = (.ok others, w)) :
    ∃ a, (convertEntries m owner ownerVar ((key, raw) :: rest)).outcome v = (.ok a, w) := by
  have hempty := attachments_of_primitive hprimitive hvalue
  simp only [convertEntries, ofValue, ofMapping, bind_eq_ok, ofExcept_eq_ok, mapError_eq_ok,
    fresh_eq_ok, onlyLiterals_eq_ok, pure_eq_ok]
  exact ⟨_, type, v, ⟨htype, rfl⟩, (), v, ⟨if_pos hprimitive, rfl⟩, item, v, ⟨hitem, rfl⟩, c, u,
    hvalue, c.literals, u, ⟨⟨hempty, rfl⟩, rfl⟩, _, _, ⟨rfl, rfl⟩, _, _, ⟨rfl, rfl⟩, others, w,
    hrest, rfl, rfl⟩

/-- A dictionary is converted exactly if it can hold the values of all its entries. -/
theorem convertEntries_succeeds_iff (m : Mapping) (owner : Owner) (ownerVar : String)
    (entries : List (String × Json)) (v : Variables) :
    (∃ a w, (convertEntries m owner ownerVar entries).outcome v = (.ok a, w)) ↔
      ∀ entry ∈ entries, ∃ type item, m.Holds entry.2 type item := by
  induction entries generalizing v with
  | nil =>
    rw [convertEntries]
    exact ⟨fun _ _ hmem => absurd hmem List.not_mem_nil, fun _ => ⟨_, v, rfl⟩⟩
  | cons entry rest ih =>
    obtain ⟨key, raw⟩ := entry
    rw [List.forall_mem_cons]
    constructor
    · rintro ⟨a, w, h⟩
      obtain ⟨type, item, c, others, u, htype, hprimitive, hitem, hvalue, -, hothers, -⟩ :=
        convertEntries_cons_ok h
      refine ⟨⟨type, item, htype, hprimitive, Mapping.found_eq_ok.mp hitem, ?_⟩,
        (ih _).mp ⟨others, w, hothers⟩⟩
      exact (convertValue_literals hprimitive).mp ⟨c, u, hvalue⟩
    · rintro ⟨⟨type, item, hraw⟩, hrest⟩
      have hvalue : ∃ c u, (convertValue m owner type raw).outcome v = (.ok c, u) :=
        (convertValue_literals hraw.primitive).mpr hraw.fits
      obtain ⟨c, u, hvalue⟩ := hvalue
      -- two variables are drawn for an entry, its entity and its tie
      obtain ⟨others, w, hothers⟩ := (ih ⟨u.issued + 2⟩).mpr hrest
      have hplace : m.dictionaryItem type = .ok item := Mapping.found_eq_ok.mpr hraw.place
      obtain ⟨a, ha⟩ :=
        convertEntries_cons_succeeds hraw.inferred hraw.primitive hplace hvalue hothers
      exact ⟨a, w, ha⟩

theorem Json.Uniform.inferType_isOk {raw : Json} (h : raw.Uniform) :
    ∃ type, raw.inferType = .ok type := by
  cases h with
  | scalar h => exact ⟨_, h⟩
  | @list items s hitems =>
    cases items with
    | nil => exact ⟨_, rfl⟩
    | cons first rest =>
      refine ⟨.list (.scalar s), except_bind_eq_ok.mpr ⟨_, hitems first List.mem_cons_self, rfl⟩⟩

/-- Entries of one shape each are converted exactly if no integer in them is too large. -/
theorem convertEntries_literals (hitems : ∀ s : Scalar, m.dictionary.items.contains s.tag = true)
    (ownerVar : String) {entries : List (String × Json)}
    (huniform : ∀ entry ∈ entries, entry.2.Uniform) :
    (∃ a w, (convertEntries m owner ownerVar entries).outcome v = (.ok a, w)) ↔
      ∀ entry ∈ entries, entry.2.FitsLong := by
  refine (convertEntries_succeeds_iff m owner ownerVar entries v).trans ?_
  refine forall₂_congr fun entry hentry => ⟨?_, fun hfits => ?_⟩
  · rintro ⟨type, item, hraw⟩
    exact (ValueType.check_inferred (huniform entry hentry) hraw.inferred).2.mp hraw.fits
  · obtain ⟨type, htype⟩ := (huniform entry hentry).inferType_isOk
    obtain ⟨hprimitive, hcheck⟩ := ValueType.check_inferred (huniform entry hentry) htype
    obtain ⟨s, hs⟩ := ValueType.isPrimitive_iff.mp hprimitive
    obtain ⟨item, hitem⟩ := Option.isSome_iff_exists.mp (hitems s)
    exact ⟨type, item, htype, hprimitive, hs ▸ hitem, hcheck.mpr hfits⟩

/-- **Types that are inferred fit, but for integers that are too large.** A scalar, or a list whose
elements are of one scalar type, fits the type that it has by its shape exactly if no integer in it
is too large for a word with sign. If dictionaries keep values of all five scalar types and the
owner has a variable, a dictionary of such values is converted exactly if none of its integers is.
-/
theorem inferred_types_fit (m : Mapping) :
    (∀ raw type, Json.Uniform raw → raw.inferType = .ok type →
      type.elementType.isPrimitive = true ∧ (type.check raw = .ok () ↔ raw.FitsLong)) ∧
    ∀ owner ownerVar entries v, owner.reference.var = some ownerVar →
      (∀ s : Scalar, m.dictionary.items.contains s.tag = true) →
      (∀ entry ∈ entries, Json.Uniform entry.2) →
      ((∃ c w, (convertValue m owner .dictionary (.object entries)).outcome v = (.ok c, w)) ↔
        ∀ entry ∈ entries, entry.2.FitsLong) := by
  refine ⟨fun raw type => ValueType.check_inferred, ?_⟩
  intro owner ownerVar entries v hvar hitems huniform
  have hentries : (∃ a w, (convertEntries m owner ownerVar entries).outcome v = (.ok a, w)) ↔
      ∀ entry ∈ entries, entry.2.FitsLong := convertEntries_literals hitems ownerVar huniform
  refine Iff.trans ⟨?_, ?_⟩ hentries
  · rintro ⟨c, w, h⟩
    obtain ⟨_, x, a, heq, hx, ha, -⟩ := convertValue_dictionary_ok h
    obtain rfl := Json.object.inj heq
    obtain rfl := Option.some.inj (hvar.symm.trans hx)
    exact ⟨a, w, ha⟩
  · rintro ⟨a, w, ha⟩
    refine ⟨{ attachments := a }, w, ?_⟩
    simp only [convertValue, ofReference, bind_eq_ok, ofExcept_eq_ok, mapError_eq_ok, pure_eq_ok]
    exact ⟨ownerVar, v, ⟨Reference.requireVar_eq_ok.mpr hvar, rfl⟩, a, w, ha, rfl, rfl⟩

/-- A mapping that keeps dictionaries with values of all scalar types. -/
def itemMapping : Mapping where
  classes := []
  objects := []
  common := []
  composites := []
  roles := []
  keyValues := []
  dictionary :=
    { keyAttribute := "item-key"
      propertyAttribute := "name"
      relation := ⟨"has-dictionary", "owner", "item"⟩
      items :=
        [("boolean", ⟨"boolean-item", "boolean-value"⟩), ("long", ⟨"long-item", "long-value"⟩),
          ("double", ⟨"double-item", "double-value"⟩), ("string", ⟨"string-item", "string-value"⟩),
          ("datetime", ⟨"datetime-item", "datetime-value"⟩)] }

/-- A dictionary with the greatest integer that fits is converted, and one with the next is not. -/
theorem inferred_types_fit_sizes :
    let owner : Owner := ⟨.known (some "tool--1") (some "v0") (some "tool"), "sizes"⟩
    let sizes (n : Int) : Json := .object [("names", .array [.string "a"]), ("size", .integer n)]
    (Json.integer Word.greatest).Uniform ∧
      (ValueType.scalar .long).check (.integer Word.greatest) = .ok () ∧
      (∃ c w, (convertValue itemMapping owner .dictionary (sizes Word.greatest)).outcome {} =
        (.ok c, w)) ∧
      ¬ ∃ c w, (convertValue itemMapping owner .dictionary (sizes (Word.greatest + 1))).outcome {} =
        (.ok c, w) := by
  intro owner sizes
  have hitems : ∀ s : Scalar, itemMapping.dictionary.items.contains s.tag = true := by
    intro s
    cases s <;> decide
  have hnumber (n : Int) : (Json.integer n).Uniform := .scalar rfl
  have hnames : (Json.array [.string "a"]).Uniform :=
    .list (s := .string) fun item hitem => by
      obtain rfl := List.mem_singleton.mp hitem
      cbv
  have huniform (n : Int) : ∀ entry ∈ [("names", Json.array [.string "a"]), ("size", .integer n)],
      entry.2.Uniform :=
    List.forall_mem_cons.mpr ⟨hnames, List.forall_mem_singleton.mpr (hnumber n)⟩
  -- only one of the entries is an integer, so whether the object fits is up to that one
  have hfits (n : Int) : (∀ entry ∈ [("names", Json.array [.string "a"]), ("size", .integer n)],
      entry.2.FitsLong) ↔ Word.fitsSigned n = true := by
    simp [Json.FitsLong, Json.integers, Json.integer?]
  obtain ⟨hvalues, hdictionaries⟩ := inferred_types_fit itemMapping
  refine ⟨hnumber _, ?_, ?_, ?_⟩
  · refine (hvalues _ _ (hnumber Word.greatest) rfl).2.mpr ?_
    simp [Json.FitsLong, Json.integers, Json.integer?, Word.fitsSigned, Word.greatest, Word.least]
  · refine (hdictionaries owner "v0" _ {} rfl hitems (huniform _)).mpr ?_
    rw [hfits]
    decide
  · rw [hdictionaries owner "v0" _ {} rfl hitems (huniform _), hfits]
    decide

/-- Not every value fits the type that it has by its shape. -/
theorem inferType_overflows :
    ¬ ∀ raw type, Json.Uniform raw → raw.inferType = .ok type →
      type.elementType.isPrimitive = true → type.check raw = .ok () := by
  intro h
  have hcheck := h (.integer 9223372036854775808) (.scalar .long) (.scalar rfl) rfl rfl
  rw [ValueType.check_scalar_iff] at hcheck
  obtain ⟨literal, hread⟩ := hcheck
  cases hread

end ThreatGraph
