import ThreatGraph.Proofs.Success
import ThreatGraph.Proofs.Tables
import ThreatGraph.Stix.Bundle

/-!
# Objects that are adopted

An object of a bundle is adopted in two steps. A property of an older version is moved to the
extensions, which is only done where there is one (`Modern`, `Legacy`), and which fails for few
reasons (`Refused`). Then the two dates are put back if they are late (`dated`). After the first
step there is nothing left to move, and a date that was put back stays where it is, even if it is
late itself. So an object that was adopted is adopted as it is, and it differs from what it was in
the property, its extensions and its dates alone (`adopt_adapts`).
-/

namespace ThreatGraph

/-- The extensions of the object; without any there are none. -/
def Members.extensions (object : Members) : Members :=
  ((object.get? "extensions").bind Json.members?).getD []

theorem Json.members?_eq_none {value : Json} :
    value.members? = none ↔ ∀ members, value ≠ .object members := by
  cases value <;> simp [members?]

namespace Stix

variable {start : Int} {object object' : Members} {property extension : String} {content : Json}

/-! ## Layouts -/

/-- The object has nothing where newer versions have nothing. -/
structure Modern (object : Members) : Prop where
  certificate : object.text? "type" = some "x509-certificate" →
    object.get? "x509_v3_extensions" = none
  marking : object.text? "type" = some "marking-definition" → object.get? "definition" = none

/-- `Legacy object property extension content`: the content of the property belongs to the
extension in newer versions. -/
inductive Legacy (object : Members) : String → String → Json → Prop
  | certificate {content : Json} : object.text? "type" = some "x509-certificate" →
      object.get? "x509_v3_extensions" = some content →
      Legacy object "x509_v3_extensions" "x509-v3-extensions" content
  | marking {kind : String} {content : Json} : object.text? "type" = some "marking-definition" →
      object.get? "definition" = some content → object.text? "definition_type" = some kind →
      kind = "tlp" ∨ kind = "statement" →
      Legacy object "definition" ("definition-" ++ kind) content

/-- Why an object is not adopted: it is a marking definition whose content is not of one of the two
types, or it has something else than extensions where its content belongs. -/
inductive Refused (object : Members) : EntryDefect → Prop
  | untyped {content : Json} : object.text? "type" = some "marking-definition" →
      object.get? "definition" = some content → object.text? "definition_type" = none →
      Refused object .noDefinitionType
  | unknown {kind : String} {content : Json} : object.text? "type" = some "marking-definition" →
      object.get? "definition" = some content → object.text? "definition_type" = some kind →
      kind ≠ "tlp" → kind ≠ "statement" → Refused object (.unknownDefinitionType kind)
  | extensions {property extension : String} {content found : Json} :
      Legacy object property extension content → object.get? "extensions" = some found →
      found.members? = none → Refused object .extensionsNotAnObject

/-- Every object has the modern layout or the legacy one, or is refused for its layout. -/
theorem modern_or_legacy_or_refused (object : Members) :
    Modern object ∨ (∃ property extension content, Legacy object property extension content) ∨
      ∃ defect, Refused object defect := by
  by_cases hcertificate : object.text? "type" = some "x509-certificate"
  · rcases hcontent : object.get? "x509_v3_extensions" with _ | content
    · exact .inl ⟨fun _ => hcontent, fun hmarking => by simp [hcertificate] at hmarking⟩
    · exact .inr (.inl ⟨_, _, content, .certificate hcertificate hcontent⟩)
  by_cases hmarking : object.text? "type" = some "marking-definition"
  · rcases hcontent : object.get? "definition" with _ | content
    · exact .inl ⟨fun h => absurd h hcertificate, fun _ => hcontent⟩
    rcases hkind : object.text? "definition_type" with _ | kind
    · exact .inr (.inr ⟨_, .untyped hmarking hcontent hkind⟩)
    by_cases hknown : kind = "tlp" ∨ kind = "statement"
    · exact .inr (.inl ⟨_, _, content, .marking hmarking hcontent hkind hknown⟩)
    · rw [not_or] at hknown
      exact .inr (.inr ⟨_, .unknown hmarking hcontent hkind hknown.1 hknown.2⟩)
  · exact .inl ⟨fun h => absurd h hcertificate, fun h => absurd h hmarking⟩

theorem Modern.not_legacy (h : Modern object) : ¬ Legacy object property extension content := by
  rintro (⟨htype, hcontent⟩ | ⟨htype, hcontent, -, -⟩)
  · cases (h.certificate htype).symm.trans hcontent
  · cases (h.marking htype).symm.trans hcontent

/-- What is moved is neither the type of the object, nor its extensions, nor a date. -/
theorem Legacy.property_ne (h : Legacy object property extension content) :
    property ≠ "type" ∧ property ≠ "extensions" ∧ property ≠ "created" ∧ property ≠ "modified" := by
  cases h <;> decide

/-- An object has one property at most that is moved. -/
theorem Legacy.unique {property' extension' : String} {content' : Json}
    (h : Legacy object property extension content)
    (h' : Legacy object property' extension' content') :
    property = property' ∧ extension = extension' ∧ content = content' := by
  cases h with
  | certificate htype hcontent =>
    cases h' with
    | certificate _ hcontent' =>
      exact ⟨rfl, rfl, Option.some.inj (hcontent.symm.trans hcontent')⟩
    | marking htype' => simp [htype] at htype'
  | marking htype hcontent hkind =>
    cases h' with
    | certificate htype' => simp [htype] at htype'
    | marking _ hcontent' hkind' =>
      obtain rfl := Option.some.inj (hkind.symm.trans hkind')
      exact ⟨rfl, rfl, Option.some.inj (hcontent.symm.trans hcontent')⟩

/-! ## Extensions -/

/-- An extension is set in an object whose extensions, if it has any, are an object. -/
theorem setExtension_eq_ok : setExtension object extension content = .ok object' ↔
    (∀ found, object.get? "extensions" = some found → found.members? ≠ none) ∧
      object' = Table.set object "extensions"
        (.object (Table.set object.extensions extension content)) := by
  unfold setExtension Members.extensions
  split
  · next hnone =>
    rw [hnone, Table.set_eq_append hnone, Except.ok.injEq, eq_comm]
    simp [Table.set]
  · next extensions hsome =>
    rw [hsome, Except.ok.injEq, eq_comm]
    simp [Json.members?]
  · next found hother hfound =>
    simp [hfound, Json.members?_eq_none.mpr hother]

/-- It cannot be set where these are something else. -/
theorem setExtension_eq_error {defect : EntryDefect} :
    setExtension object extension content = .error defect ↔
      defect = .extensionsNotAnObject ∧
        ∃ found, object.get? "extensions" = some found ∧ found.members? = none := by
  unfold setExtension
  split
  · next hnone => simp [hnone]
  · next extensions hsome => simp [hsome, Json.members?]
  · next found hother hfound =>
    simp [hfound, Json.members?_eq_none.mpr hother, eq_comm]

/-! ## The first step -/

theorem Modern.modernLayout_eq (h : Modern object) : modernLayout object = .ok object := by
  unfold modernLayout
  split
  · next htype => rw [modernCertificate, h.certificate htype]
  · next htype => rw [modernMarking, h.marking htype]
  · rfl

section Distinct

variable (hdistinct : (Table.names object).Nodup)
include hdistinct

/-- What is taken out is no longer found, and all else is. -/
theorem get?_swapErase (property name : String) :
    Members.get? (Table.swapErase object property) name =
      if name = property then none else object.get? name :=
  Table.get?_swapErase hdistinct property name

theorem text?_swapErase {name : String} (hname : name ≠ property) :
    Members.text? (Table.swapErase object property) name = object.text? name := by
  rw [Members.text?, get?_swapErase hdistinct, if_neg hname, Members.text?]

/-- What becomes of a marking definition hangs on the type of its content. -/
theorem modernLayout_marking (htype : object.text? "type" = some "marking-definition")
    (hcontent : object.get? "definition" = some content) :
    modernLayout object =
      match object.text? "definition_type" with
      | none => .error .noDefinitionType
      | some kind =>
        if kind = "tlp" ∨ kind = "statement" then
          setExtension (Table.swapErase object "definition") ("definition-" ++ kind) content
        else .error (.unknownDefinitionType kind) := by
  rw [modernLayout]
  simp only [htype]
  rw [modernMarking, hcontent]
  have hkept : Members.text? (Table.swapErase object "definition") "definition_type" =
      object.text? "definition_type" := text?_swapErase hdistinct (by decide)
  cases hkind : object.text? "definition_type" with
  | none => simp only [hkept, hkind]
  | some kind => simp only [hkept, hkind]

/-- A legacy object gets its content as an extension, and the property is taken out. -/
theorem Legacy.modernLayout_eq (h : Legacy object property extension content) :
    modernLayout object = setExtension (Table.swapErase object property) extension content := by
  cases h with
  | certificate htype hcontent =>
    rw [modernLayout]
    simp only [htype]
    rw [modernCertificate, hcontent]
  | marking htype hcontent hkind hknown =>
    rw [modernLayout_marking hdistinct htype hcontent, hkind]
    exact if_pos hknown

/-- What stands for the extensions is left where a property was taken out. -/
theorem Legacy.get?_extensions (h : Legacy object property extension content) :
    Members.get? (Table.swapErase object property) "extensions" = object.get? "extensions" := by
  rw [get?_swapErase hdistinct, if_neg h.property_ne.2.1.symm]

/-- An object with another layout is refused. -/
theorem Refused.modernLayout_eq {defect : EntryDefect} (h : Refused object defect) :
    modernLayout object = .error defect := by
  cases h with
  | untyped htype hcontent hkind =>
    rw [modernLayout_marking hdistinct htype hcontent, hkind]
  | unknown htype hcontent hkind htlp hstatement =>
    rw [modernLayout_marking hdistinct htype hcontent, hkind]
    exact if_neg (not_or.mpr ⟨htlp, hstatement⟩)
  | extensions hlegacy hfound hnone =>
    rw [hlegacy.modernLayout_eq hdistinct]
    rw [← hlegacy.get?_extensions hdistinct] at hfound
    exact setExtension_eq_error.mpr ⟨rfl, _, hfound, hnone⟩

/-- An object that is brought to the layout of newer versions had it already, or one property was
moved. -/
theorem modernLayout_eq_ok (h : modernLayout object = .ok object') :
    (Modern object ∧ object' = object) ∨ ∃ property extension content,
      Legacy object property extension content ∧
        object' = Table.set (Table.swapErase object property) "extensions"
          (.object (Table.set object.extensions extension content)) := by
  rcases modern_or_legacy_or_refused object with
    hmodern | ⟨property, extension, content, hlegacy⟩ | ⟨defect, hrefused⟩
  · rw [hmodern.modernLayout_eq] at h
    exact .inl ⟨hmodern, (Except.ok.inj h).symm⟩
  · rw [hlegacy.modernLayout_eq hdistinct] at h
    obtain ⟨-, hset⟩ := setExtension_eq_ok.mp h
    rw [Members.extensions, hlegacy.get?_extensions hdistinct, ← Members.extensions] at hset
    exact .inr ⟨property, extension, content, hlegacy, hset⟩
  · rw [hrefused.modernLayout_eq hdistinct] at h
    cases h

/-- An object is refused only for such a layout. -/
theorem modernLayout_eq_error {defect : EntryDefect} :
    modernLayout object = .error defect ↔ Refused object defect := by
  refine ⟨fun h => ?_, fun h => h.modernLayout_eq hdistinct⟩
  rcases modern_or_legacy_or_refused object with
    hmodern | ⟨property, extension, content, hlegacy⟩ | ⟨other, hrefused⟩
  · rw [hmodern.modernLayout_eq] at h
    cases h
  · rw [hlegacy.modernLayout_eq hdistinct] at h
    obtain ⟨rfl, found, hfound, hnone⟩ := setExtension_eq_error.mp h
    rw [hlegacy.get?_extensions hdistinct] at hfound
    exact .extensions hlegacy hfound hnone
  · rw [hrefused.modernLayout_eq hdistinct] at h
    rwa [← Except.error.inj h]

/-- The object after a property was moved to its extensions. -/
theorem get?_moved (property name : String) (extensions : Json) :
    Members.get? (Table.set (Table.swapErase object property) "extensions" extensions) name =
      if name = "extensions" then some extensions
      else if name = property then none else object.get? name := by
  rw [Members.get?, Table.get?_set]
  simp only [eq_comm (a := "extensions")]
  split
  · rfl
  · exact get?_swapErase hdistinct property name

/-- Moving an extension takes one name out, and makes sure that there are extensions. -/
theorem mem_names_moved (property name : String) (extensions : Json) :
    name ∈ Table.names (Table.set (Table.swapErase object property) "extensions" extensions) ↔
      (name ∈ Table.names object ∧ name ≠ property) ∨ name = "extensions" := by
  rw [Table.names_set]
  split
  · next hthere =>
    rw [Table.mem_names_swapErase hdistinct] at hthere ⊢
    refine ⟨.inl, ?_⟩
    rintro (h | rfl)
    · exact h
    · exact hthere
  · rw [List.mem_append, List.mem_singleton, Table.mem_names_swapErase hdistinct]

end Distinct

/-- What the first step does. -/
structure Modernized (object object' : Members) : Prop where
  modern : Modern object'
  distinct : (Table.names object').Nodup
  /-- an object without anything to move is left as it is -/
  kept : (∀ property extension content, ¬ Legacy object property extension content) →
    object' = object
  /-- a property that is moved is not there any more, but its content is among the extensions -/
  moved : ∀ {property extension content}, Legacy object property extension content →
    (∀ name, name ∈ Table.names object' ↔
      (name ∈ Table.names object ∧ name ≠ property) ∨ name = "extensions") ∧
    object'.get? "extensions" = some (.object (Table.set object.extensions extension content))
  /-- nothing else is touched -/
  same : ∀ name, (∀ property extension content, Legacy object property extension content →
    name ≠ property ∧ name ≠ "extensions") → object'.get? name = object.get? name

/-- A modern object has become modern by changing nothing. -/
theorem Modern.modernized (hdistinct : (Table.names object).Nodup) (h : Modern object) :
    Modernized object object where
  modern := h
  distinct := hdistinct
  kept _ := rfl
  moved hlegacy := absurd hlegacy h.not_legacy
  same _ _ := rfl

/-- Where something was moved there is nothing else to move. -/
theorem Legacy.modern_moved (hdistinct : (Table.names object).Nodup)
    (h : Legacy object property extension content) (extensions : Json) :
    Modern (Table.set (Table.swapErase object property) "extensions" extensions) := by
  have htype : Members.text? (Table.set (Table.swapErase object property) "extensions" extensions)
      "type" = object.text? "type" := by
    rw [Members.text?, get?_moved hdistinct, if_neg (by decide),
      if_neg h.property_ne.1.symm, Members.text?]
  have hgone : Members.get? (Table.set (Table.swapErase object property) "extensions" extensions)
      property = none := by
    rw [get?_moved hdistinct, if_neg h.property_ne.2.1, if_pos rfl]
  cases h with
  | certificate hcertificate =>
    exact ⟨fun _ => hgone, fun hmarking => by simp [htype, hcertificate] at hmarking⟩
  | marking hmarking =>
    exact ⟨fun hcertificate => by simp [htype, hmarking] at hcertificate, fun _ => hgone⟩

/-- A legacy object becomes modern by moving one property. -/
theorem Legacy.modernized (hdistinct : (Table.names object).Nodup)
    (h : Legacy object property extension content) :
    Modernized object (Table.set (Table.swapErase object property) "extensions"
      (.object (Table.set object.extensions extension content))) where
  modern := h.modern_moved hdistinct _
  distinct := Table.nodup_set (Table.nodup_swapErase hdistinct property) _ _
  kept hnone := absurd h (hnone _ _ _)
  moved h' := by
    obtain ⟨rfl, rfl, rfl⟩ := h.unique h'
    refine ⟨fun name => mem_names_moved hdistinct _ name _, ?_⟩
    rw [get?_moved hdistinct, if_pos rfl]
  same name hother := by
    obtain ⟨hproperty, hextensions⟩ := hother _ _ _ h
    rw [get?_moved hdistinct, if_neg hextensions, if_neg hproperty]

/-- Whatever the first step leaves has become modern. -/
theorem modernLayout_modernizes (hdistinct : (Table.names object).Nodup)
    (h : modernLayout object = .ok object') : Modernized object object' := by
  rcases modernLayout_eq_ok hdistinct h with
    ⟨hmodern, rfl⟩ | ⟨property, extension, content, hlegacy, rfl⟩
  · exact hmodern.modernized hdistinct
  · exact hlegacy.modernized hdistinct

/-! ## Dates -/

/-- The value is a timestamp that is not before the start. -/
def Late (start : Int) (raw : Json) : Prop :=
  ∃ text t, raw = .string text ∧ Timestamp.parse text = .ok t ∧ start ≤ t.instant

/-- The value of a date, put back if it is late. -/
def dated (start : Int) (raw : Json) : Json :=
  match raw.text?.map Timestamp.parse with
  | some (.ok t) => if start ≤ t.instant then .string baseTime else raw
  | _ => raw

variable {raw : Json}

theorem dated_of_late (h : Late start raw) : dated start raw = .string baseTime := by
  obtain ⟨text, t, rfl, ht, hstart⟩ := h
  rw [dated, Json.text?, Option.map_some, ht]
  exact if_pos hstart

theorem dated_of_not_late (h : ¬ Late start raw) : dated start raw = raw := by
  unfold dated
  split
  · next t ht =>
    apply if_neg
    intro hstart
    obtain ⟨text, htext, hparse⟩ := Option.map_eq_some_iff.mp ht
    cases raw with
    | string found =>
      obtain rfl := Option.some.inj htext
      exact h ⟨found, t, rfl, hparse, hstart⟩
    | _ => cases htext
  · rfl

/-- A date is put back once: where it is then it stays, late or not. -/
theorem dated_dated (start : Int) (raw : Json) :
    dated start (dated start raw) = dated start raw := by
  by_cases hraw : Late start raw
  · rw [dated_of_late hraw]
    by_cases hbase : Late start (.string baseTime)
    · exact dated_of_late hbase
    · exact dated_of_not_late hbase
  · rw [dated_of_not_late hraw, dated_of_not_late hraw]

/-- A property that is not there is not dated back. -/
theorem dateBack_of_none (h : object.get? property = none) :
    dateBack start object property = object := by
  rw [dateBack, Members.text?, h]
  rfl

/-- One that is there gets the date that its value is put back to. -/
theorem dateBack_of_some (h : object.get? property = some raw) :
    dateBack start object property = Table.set object property (dated start raw) := by
  have hself : Table.set object property raw = object := Table.set_eq_self h
  unfold dateBack dated
  rw [Members.text?, h, Option.bind_some]
  rcases raw.text?.map Timestamp.parse with _ | (_ | t)
  · exact hself.symm
  · exact hself.symm
  · dsimp only
    by_cases hstart : start ≤ t.instant
    · rw [if_pos hstart, if_pos hstart]
    · rw [if_neg hstart, if_neg hstart, hself]

/-- Dating a property back changes no other one. -/
theorem get?_dateBack (start : Int) (object : Members) (property name : String) :
    (dateBack start object property).get? name =
      if name = property then (object.get? name).map (dated start) else object.get? name := by
  rcases hget : object.get? property with _ | raw
  · rw [dateBack_of_none hget]
    split
    · next heq => rw [heq, hget, Option.map_none]
    · rfl
  · rw [dateBack_of_some hget]
    change Table.get? (Table.set _ _ _) name = _
    rw [Table.get?_set]
    by_cases heq : name = property
    · rw [if_pos heq.symm, if_pos heq, heq, hget, Option.map_some]
    · rw [if_neg (Ne.symm heq), if_neg heq]
      rfl

theorem names_dateBack (start : Int) (object : Members) (property : String) :
    Table.names (dateBack start object property) = Table.names object := by
  rcases hget : object.get? property with _ | raw
  · rw [dateBack_of_none hget]
  · have hname : property ∈ Table.names object :=
      Table.isSome_get?_iff.mp (Option.isSome_iff_exists.mpr ⟨raw, hget⟩)
    rw [dateBack_of_some hget, Table.names_set, if_pos hname]

/-- Nothing changes if the value stays as it is. -/
theorem dateBack_eq_self (h : ∀ raw, object.get? property = some raw → dated start raw = raw) :
    dateBack start object property = object := by
  rcases hget : object.get? property with _ | raw
  · exact dateBack_of_none hget
  · rw [dateBack_of_some hget, h raw hget]
    exact Table.set_eq_self hget

section Dates

variable (properties : List String)

/-- After all dates have been put back, each is what it comes to by itself. -/
theorem get?_foldl_dateBack (start : Int) (object : Members) (name : String) :
    (properties.foldl (dateBack start) object).get? name =
      if name ∈ properties then (object.get? name).map (dated start) else object.get? name := by
  induction properties generalizing object with
  | nil => rfl
  | cons property rest ih =>
    rw [List.foldl_cons, ih, get?_dateBack]
    by_cases hfirst : name = property
    · simp [hfirst, Option.map_map, Function.comp_def, dated_dated]
    · simp [hfirst]

/-- Dating properties back neither adds nor removes a name. -/
theorem names_foldl_dateBack (start : Int) (object : Members) :
    Table.names (properties.foldl (dateBack start) object) = Table.names object := by
  induction properties generalizing object with
  | nil => rfl
  | cons property rest ih => rw [List.foldl_cons, ih, names_dateBack]

variable {properties}

/-- Nothing changes if all their values stay as they are. -/
theorem foldl_dateBack_eq_self (h : ∀ property ∈ properties, ∀ raw,
    object.get? property = some raw → dated start raw = raw) :
    properties.foldl (dateBack start) object = object := by
  induction properties with
  | nil => rfl
  | cons property rest ih =>
    rw [List.foldl_cons, dateBack_eq_self (h property List.mem_cons_self)]
    exact ih fun other hother => h other (List.mem_cons_of_mem _ hother)

end Dates

/-! ## Adopted objects -/

/-- The properties that are dates. -/
def dates : List String := ["created", "modified"]

/-- An object is adopted in two steps: it gets the modern layout, and its dates are put back. -/
theorem adopt_eq_ok : adopt start (.object object) = .ok object' ↔
    ∃ modern, modernLayout object = .ok modern ∧ dates.foldl (dateBack start) modern = object' := by
  rw [adopt, except_bind_eq_ok]
  simp only [pure, Except.pure, Except.ok.injEq]
  rfl

theorem adopt_eq_error {defect : EntryDefect} :
    adopt start (.object object) = .error defect ↔ modernLayout object = .error defect := by
  rw [adopt, except_bind_eq_error]
  simp [pure, Except.pure]

/-- How an object is changed when it is adopted. -/
structure Adapted (start : Int) (object object' : Members) : Prop where
  /-- once: adopted again it stays as it is, in the same order -/
  again : adopt start (.object object') = .ok object'
  distinct : (Table.names object').Nodup
  /-- where nothing is moved, the same members are there in the same order -/
  kept : (∀ property extension content, ¬ Legacy object property extension content) →
    Table.names object' = Table.names object
  /-- a property that is moved is not there any more, its content is that of its extension, and all
  other extensions are what they were -/
  moved : ∀ {property extension content}, Legacy object property extension content →
    (∀ name, name ∈ Table.names object' ↔
      (name ∈ Table.names object ∧ name ≠ property) ∨ name = "extensions") ∧
    ∃ extensions : Members, object'.get? "extensions" = some (.object extensions) ∧
      extensions.get? extension = some content ∧
      ∀ name, name ≠ extension → extensions.get? name = object.extensions.get? name
  /-- all else but the dates is what it was -/
  same : ∀ name, name ∉ dates →
    (∀ property extension content, Legacy object property extension content →
      name ≠ property ∧ name ≠ "extensions") → object'.get? name = object.get? name
  /-- a late date is put back, and any other is what it was -/
  late : ∀ property ∈ dates, ∀ raw, object.get? property = some raw → Late start raw →
    object'.get? property = some (.string baseTime)
  dated : ∀ property ∈ dates, ∀ raw, object.get? property = some raw → ¬ Late start raw →
    object'.get? property = some raw
  /-- so no date is late but the one that dates are put back to -/
  past : ∀ property ∈ dates, ∀ text t, object'.text? property = some text →
    Timestamp.parse text = .ok t → t.instant < start ∨ text = baseTime

/-- The second step leaves all else but the dates as it is. -/
theorem get?_of_not_mem_dates (object : Members) (hproperty : property ∉ dates) :
    (dates.foldl (dateBack start) object).get? property = object.get? property := by
  rw [get?_foldl_dateBack, if_neg hproperty]

namespace Modernized

variable {modern : Members} (h : Modernized object modern)
include h

/-- The first step leaves the dates as they are. -/
theorem get?_date (hproperty : property ∈ dates) : modern.get? property = object.get? property := by
  apply h.same
  intro moved extension content hlegacy
  obtain ⟨-, -, hcreated, hmodified⟩ := hlegacy.property_ne
  simp only [dates, List.mem_cons, List.not_mem_nil, or_false] at hproperty
  rcases hproperty with rfl | rfl
  · exact ⟨hcreated.symm, by decide⟩
  · exact ⟨hmodified.symm, by decide⟩

/-- Of the two dates, each is what it was put back to. -/
theorem get?_adopted_date (hproperty : property ∈ dates) :
    (dates.foldl (dateBack start) modern).get? property =
      (object.get? property).map (dated start) := by
  rw [get?_foldl_dateBack, if_pos hproperty, h.get?_date hproperty]

/-- Putting dates back leaves the layout as it is. -/
theorem modern_adopted : Modern (dates.foldl (dateBack start) modern) where
  certificate := by
    rw [Members.text?, get?_of_not_mem_dates _ (by decide), get?_of_not_mem_dates _ (by decide)]
    exact h.modern.certificate
  marking := by
    rw [Members.text?, get?_of_not_mem_dates _ (by decide), get?_of_not_mem_dates _ (by decide)]
    exact h.modern.marking

/-- What has become modern, with its dates put back, is all that adopting promises. -/
theorem adapted : Adapted start object (dates.foldl (dateBack start) modern) where
  again := by
    apply adopt_eq_ok.mpr
    refine ⟨_, h.modern_adopted.modernLayout_eq, foldl_dateBack_eq_self ?_⟩
    intro property hproperty raw hraw
    -- a date that was put back is not late any more
    rw [get?_foldl_dateBack, if_pos hproperty] at hraw
    obtain ⟨found, -, rfl⟩ := Option.map_eq_some_iff.mp hraw
    exact dated_dated start found
  distinct := by
    rw [names_foldl_dateBack]
    exact h.distinct
  kept hnone := by rw [names_foldl_dateBack, h.kept hnone]
  moved hlegacy := by
    obtain ⟨hnames, hextensions⟩ := h.moved hlegacy
    rw [names_foldl_dateBack, get?_of_not_mem_dates _ (by decide)]
    refine ⟨hnames, _, hextensions, ?_, fun name hname => ?_⟩
    · exact (Table.get?_set ..).trans (if_pos rfl)
    · exact (Table.get?_set ..).trans (if_neg hname.symm)
  same name hdate hother := by
    rw [get?_of_not_mem_dates _ hdate]
    exact h.same name hother
  late property hproperty raw hraw hlate := by
    rw [h.get?_adopted_date hproperty, hraw, Option.map_some, dated_of_late hlate]
  dated property hproperty raw hraw hlate := by
    rw [h.get?_adopted_date hproperty, hraw, Option.map_some, dated_of_not_late hlate]
  past property hproperty text t htext ht := by
    rw [Members.text?, h.get?_adopted_date hproperty] at htext
    obtain ⟨raw, hraw, htext⟩ := Option.bind_eq_some_iff.mp htext
    obtain ⟨found, -, rfl⟩ := Option.map_eq_some_iff.mp hraw
    by_cases hlate : Late start found
    · rw [dated_of_late hlate] at htext
      exact .inr (Option.some.inj htext).symm
    · rw [dated_of_not_late hlate] at htext
      left
      by_contra hstart
      cases found with
      | string found =>
        obtain rfl := Option.some.inj htext
        exact hlate ⟨found, t, rfl, ht, Int.not_lt.mp hstart⟩
      | _ => cases htext

end Modernized

/-- **Objects are adopted once, and little is changed.** If an object that repeats no name is
adopted, then it is adopted again as it is, with its members in the same order. If there was nothing
to move, then the same members are there in the same order, and otherwise the property that was
moved is not there, but its content is that of its extension. No other extension is changed, and
nothing else besides but the two dates. These are kept unless they are late, and then they are that
one date which counts as past in any case. -/
theorem adopt_adapts (hdistinct : (Table.names object).Nodup)
    (h : adopt start (.object object) = .ok object') : Adapted start object object' := by
  obtain ⟨modern, hmodern, rfl⟩ := adopt_eq_ok.mp h
  exact (modernLayout_modernizes hdistinct hmodern).adapted

/-- A certificate of an older version, which claims to be from the year 2030. -/
def oldCertificate : Members :=
  [("type", .string "x509-certificate"), ("x509_v3_extensions", .string "critical"),
    ("created", .string "2030-01-01T00:00:00Z"), ("modified", .bool true),
    ("extensions", .object [("note", .string "kept")])]

/-- The certificate as it is adopted at the beginning of the year 2020. -/
def newCertificate : Members :=
  [("type", .string "x509-certificate"),
    ("extensions", .object [("note", .string "kept"), ("x509-v3-extensions", .string "critical")]),
    ("created", .string "1970-01-01T00:00:00Z"), ("modified", .bool true)]

/-- The old certificate becomes the new one, which then stays as it is. -/
theorem adopt_adapts_certificate : (Table.names oldCertificate).Nodup ∧
    adopt 1577836800000000000 (.object oldCertificate) = .ok newCertificate ∧
    adopt 1577836800000000000 (.object newCertificate) = .ok newCertificate ∧
    Adapted 1577836800000000000 oldCertificate newCertificate := by
  have hdistinct : (Table.names oldCertificate).Nodup := by decide
  have hrun : adopt 1577836800000000000 (.object oldCertificate) = .ok newCertificate := by rfl
  have hadapted := adopt_adapts hdistinct hrun
  exact ⟨hdistinct, hrun, hadapted.again, hadapted⟩

end Stix

end ThreatGraph
