import ThreatGraph.Proofs.Scope

/-!
# Strict and lenient conversions

A strict conversion ends with the first property that fails, where a lenient one skips the
property and goes on. `Stricter` relates the two: as long as nothing failed they do the same, and
the strict one ends with the first failure that the lenient one reports, whatever becomes of the
lenient one later. `convert_stricter` carries this from single properties to objects, and
`strict_agrees_with_lenient` is what it says about the results.

`Stricter` has a law for each way to put computations together, so the conversion of an object is
related part by part. Only at a property do the two differ; after a first failure nothing more is
asked of the strict one.
-/

namespace ThreatGraph

open Naming

/-! ## The first failure -/

/-- The name and the defect of a property that was skipped because it failed. -/
def Skipped.failure? (entry : Skipped) : Option (String × PropertyDefect) :=
  match entry.reason with
  | .unmapped => none
  | .failed defect => some (entry.name, defect)

/-- The first failure among skipped properties. -/
def firstFailure? (skipped : List Skipped) : Option (String × PropertyDefect) :=
  skipped.findSome? Skipped.failure?

/-- The first failure of two lists is that of the first, or else of the other. -/
theorem firstFailure?_append (first others : List Skipped) :
    firstFailure? (first ++ others) = (firstFailure? first).or (firstFailure? others) :=
  List.findSome?_append

/-- An entry is no failure exactly if its property is not mapped. -/
theorem Skipped.failure?_eq_none {entry : Skipped} :
    entry.failure? = none ↔ entry.reason = .unmapped := by
  rw [failure?]
  cases entry.reason <;> simp

/-- There is no failure exactly if nothing was skipped but properties that are not mapped. -/
theorem firstFailure?_eq_none {skipped : List Skipped} :
    firstFailure? skipped = none ↔ ∀ entry ∈ skipped, entry.reason = .unmapped := by
  simp only [firstFailure?, List.findSome?_eq_none_iff, Skipped.failure?_eq_none]

/-- All entries before the first failure are unmapped. -/
theorem firstFailure?_eq_some {skipped : List Skipped} {label : String} {defect : PropertyDefect}
    (h : firstFailure? skipped = some (label, defect)) :
    ∃ before after, skipped = before ++ ⟨label, .failed defect⟩ :: after ∧
      ∀ entry ∈ before, entry.reason = .unmapped := by
  obtain ⟨before, entry, after, hskipped, hentry, hbefore⟩ := List.findSome?_eq_some_iff.mp h
  refine ⟨before, after, ?_, fun other hother => Skipped.failure?_eq_none.mp (hbefore other hother)⟩
  obtain ⟨name, reason⟩ := entry
  cases reason with
  | unmapped => simp [Skipped.failure?] at hentry
  | failed found =>
    obtain ⟨rfl, rfl⟩ := Prod.mk.inj (Option.some.inj hentry)
    exact hskipped

/-! ## Computations and their strict forms -/

/-- `strict` does what `lenient` does as long as nothing failed, where `skipped` is what a result
reports, and otherwise fails with the first failure. Where `lenient` fails, so does `strict`, but
perhaps earlier and for another reason. -/
structure Stricter {α : Type} (stixId : String) (skipped : α → List Skipped)
    (lenient strict : Naming ObjectDefect α) : Prop where
  agree : ∀ {v w a}, lenient.outcome v = (.ok a, w) → firstFailure? (skipped a) = none →
    strict.outcome v = (.ok a, w)
  failure : ∀ {v w a label defect}, lenient.outcome v = (.ok a, w) →
    firstFailure? (skipped a) = some (label, defect) →
    (strict.outcome v).1 = .error (.ofProperty label stixId defect)
  error : ∀ {v e}, (lenient.outcome v).1 = .error e → ∃ e', (strict.outcome v).1 = .error e'

namespace Stricter

variable {α β : Type} {stixId : String} {skipped : α → List Skipped} {reported : β → List Skipped}
  {x y : Naming ObjectDefect α} {k l : α → Naming ObjectDefect β}

/-- A computation that reports no failure is its own strict form. -/
theorem same (h : ∀ a, firstFailure? (skipped a) = none) : Stricter stixId skipped x x where
  agree hx _ := hx
  failure {v w a label defect} _ hfailure := by simp [h a] at hfailure
  error {v e} hx := ⟨e, hx⟩

theorem pure {b : β} (h : firstFailure? (reported b) = none) :
    Stricter stixId reported (pure b) (pure b) where
  agree hx _ := hx
  failure {v w a label defect} hx hfailure := by
    obtain ⟨rfl, rfl⟩ := pure_eq_ok.mp hx
    simp [h] at hfailure
  error {v e} hx := ⟨e, hx⟩

theorem throw (e : ObjectDefect) : Stricter stixId skipped (throw e) (throw e) where
  agree hx _ := hx
  failure hx _ := absurd hx throw_ne_ok
  error _ := ⟨e, rfl⟩

/-- A sequence is made strict part by part, if a failure of the first part is the first of the
whole. -/
theorem bind (hxy : Stricter stixId skipped x y)
    (hkl : ∀ a, firstFailure? (skipped a) = none → Stricter stixId reported (k a) (l a))
    (hreport : ∀ {a v b w failure}, (k a).outcome v = (.ok b, w) →
      firstFailure? (skipped a) = some failure → firstFailure? (reported b) = some failure) :
    Stricter stixId reported (x >>= k) (y >>= l) where
  agree {v w b} hx hnone := by
    obtain ⟨a, u, hxa, hkb⟩ := bind_eq_ok.mp hx
    cases hfirst : firstFailure? (skipped a) with
    | none => exact bind_eq_ok.mpr ⟨a, u, hxy.agree hxa hfirst, (hkl a hfirst).agree hkb hnone⟩
    | some failure => simp [hreport hkb hfirst] at hnone
  failure {v w b label defect} hx hsome := by
    obtain ⟨a, u, hxa, hkb⟩ := bind_eq_ok.mp hx
    cases hfirst : firstFailure? (skipped a) with
    | none =>
      exact bind_fails.mpr (.inr ⟨a, u, hxy.agree hxa hfirst, (hkl a hfirst).failure hkb hsome⟩)
    -- the lenient run went on after this failure, the strict one does not
    | some failure =>
      obtain rfl := Option.some.inj ((hreport hkb hfirst).symm.trans hsome)
      exact bind_fails.mpr (.inl (hxy.failure hxa hfirst))
  error {v e} hx := by
    rcases bind_fails.mp hx with hx | ⟨a, u, hxa, hk⟩
    · obtain ⟨e', hy⟩ := hxy.error hx
      exact ⟨e', bind_fails.mpr (.inl hy)⟩
    · rcases hfirst : firstFailure? (skipped a) with _ | ⟨label, defect⟩
      · obtain ⟨e', hl⟩ := (hkl a hfirst).error hk
        exact ⟨e', bind_fails.mpr (.inr ⟨a, u, hxy.agree hxa hfirst, hl⟩)⟩
      -- the strict run ends before it gets to where the lenient one fails
      · exact ⟨_, bind_fails.mpr (.inl (hxy.failure hxa hfirst))⟩

/-- What comes before the first property is the same in both. -/
theorem bind_same (hkl : ∀ a, Stricter stixId reported (k a) (l a)) :
    Stricter stixId reported (x >>= k) (x >>= l) :=
  have hsame : Stricter stixId (fun _ => []) x x := same fun _ => rfl
  bind hsame (fun a _ => hkl a) fun _ hfailure => nomatch hfailure

/-- A result may be put in another form that reports the same first failure. -/
theorem map {f : α → β} (hxy : Stricter stixId skipped x y)
    (hreport : ∀ a, firstFailure? (reported (f a)) = firstFailure? (skipped a)) :
    Stricter stixId reported (x >>= fun a => Pure.pure (f a)) (y >>= fun a => Pure.pure (f a)) := by
  refine bind hxy (fun a hnone => pure ?_) fun {a v b w failure} hb hsome => ?_
  · rw [hreport, hnone]
  · obtain ⟨rfl, rfl⟩ := pure_eq_ok.mp hb
    rw [hreport, hsome]

end Stricter

/-! ## Objects -/

namespace Subject

/-- The object to be converted strictly or leniently. -/
def under (s : Subject) (strict : Bool) : Subject := { s with strict }

variable (s : Subject) (self : Reference)

/-- A property that fails is reported by the one and ends the other. -/
theorem property_stricter (label : String) (info : Option AttributeInfo) (raw : Json) :
    Stricter s.stixId Collected.skipped ((s.under false).property self label info raw)
      ((s.under true).property self label info raw) := by
  cases info with
  | none => exact .pure rfl
  | some i =>
    refine .bind_same fun result => ?_
    cases result with
    -- the one place where the two differ
    | error defect =>
      refine ⟨fun {v w a} hx hnone => ?_, fun {v w a label' defect'} hx hsome => ?_,
        fun {v e} hx => ⟨_, rfl⟩⟩
      · obtain ⟨rfl, rfl⟩ := pure_eq_ok.mp hx
        simp [firstFailure?, Skipped.failure?] at hnone
      · obtain ⟨rfl, rfl⟩ := pure_eq_ok.mp hx
        obtain ⟨rfl, rfl⟩ : label = label' ∧ defect = defect' := by
          simpa [firstFailure?, Skipped.failure?] using hsome
        rfl
    | ok converted => exact .pure rfl

/-- What is reported of two lists of properties begins with what is reported of the first. -/
theorem stricter_append {x y : Naming ObjectDefect Collected}
    {k l : Naming ObjectDefect Collected} (hxy : Stricter s.stixId Collected.skipped x y)
    (hkl : Stricter s.stixId Collected.skipped k l) :
    Stricter s.stixId Collected.skipped
      (x >>= fun first => k >>= fun others => pure (first ++ others))
      (y >>= fun first => l >>= fun others => pure (first ++ others)) := by
  have hskipped (first others : Collected) :
      (first ++ others).skipped = first.skipped ++ others.skipped := rfl
  refine .bind hxy (fun first hnone => .map hkl fun others => ?_) ?_
  · rw [hskipped, firstFailure?_append, hnone, Option.none_or]
  · intro first v b w failure hb hsome
    obtain ⟨others, u, -, hothers⟩ := bind_eq_ok.mp hb
    obtain ⟨rfl, rfl⟩ := pure_eq_ok.mp hothers
    rw [hskipped, firstFailure?_append, hsome, Option.some_or]

/-- Failures of several properties are all reported by the one, and the first ends the other. -/
theorem propertiesBy_stricter (entry : String → Except MappingDefect (Option AttributeInfo))
    (label : String → String) : ∀ members : Members,
    Stricter s.stixId Collected.skipped ((s.under false).propertiesBy self entry label members)
      ((s.under true).propertiesBy self entry label members)
  | [] => .pure rfl
  | (name, raw) :: rest =>
    .bind_same fun info =>
      s.stricter_append (s.property_stricter self (label name) info raw)
        (propertiesBy_stricter entry label rest)

theorem properties_stricter (roleplayers : List String) (extensions : Option Members) :
    Stricter s.stixId Collected.skipped
      ((s.under false).properties self roleplayers extensions)
      ((s.under true).properties self roleplayers extensions) := by
  simp only [properties, ownProperties_eq, extensionProperties_eq]
  refine .bind (s.propertiesBy_stricter self _ _ _)
    (fun own hnone => .bind_same fun relevant => ?_) ?_
  · cases relevant with
    | none => exact .pure hnone
    | some name =>
      cases hmembers : (extensions.bind fun e => e.get? name).bind Json.members? with
      | none =>
        simp only [hmembers]
        exact .throw _
      | some members =>
        simp only [hmembers]
        refine .map (s.propertiesBy_stricter self _ _ members) fun more => ?_
        change firstFailure? (own.skipped ++ more.skipped) = _
        rw [firstFailure?_append, hnone, Option.none_or]
  · -- once a property of the object itself has failed, the extension no longer counts
    intro own v b w failure hb hsome
    obtain ⟨relevant, u, -, hb⟩ := bind_eq_ok.mp hb
    cases relevant with
    | none =>
      obtain ⟨rfl, rfl⟩ := pure_eq_ok.mp hb
      exact hsome
    | some name =>
      cases hmembers : (extensions.bind fun e => e.get? name).bind Json.members? with
      | none =>
        simp only [hmembers] at hb
        exact absurd hb throw_ne_ok
      | some members =>
        simp only [hmembers] at hb
        obtain ⟨more, u', -, hmore⟩ := bind_eq_ok.mp hb
        obtain ⟨rfl, rfl⟩ := pure_eq_ok.mp hmore
        change firstFailure? (own.skipped ++ more.skipped) = _
        rw [firstFailure?_append, hsome, Option.some_or]

/-- Role players are matched in the same way. -/
theorem players_under (strict : Bool) (typeName : String) (properties : List String) :
    (s.under strict).players typeName properties = s.players typeName properties :=
  s.players_with strict s.object typeName fun _ _ => .inl rfl

theorem entityDraft_stricter (typeName : String) (extensions : Option Members) :
    Stricter s.stixId Prod.snd ((s.under false).entityDraft typeName extensions)
      ((s.under true).entityDraft typeName extensions) :=
  .bind_same fun _ => .map (s.properties_stricter _ [] extensions) fun _ => rfl

theorem relationDraft_stricter (typeName : String) (extensions : Option Members) :
    Stricter s.stixId Prod.snd ((s.under false).relationDraft typeName extensions)
      ((s.under true).relationDraft typeName extensions) := by
  rw [relationDraft]
  refine .bind_same fun var => .bind_same fun roleplayers => ?_
  rw [players_under, players_under]
  refine .bind_same fun players => ?_
  cases players.isEmpty with
  | true => exact .throw _
  | false => exact .map (s.properties_stricter _ roleplayers extensions) fun _ => rfl

theorem draft_stricter (objectClass : ObjectClass) :
    Stricter s.stixId Prod.snd ((s.under false).draft objectClass)
      ((s.under true).draft objectClass) := by
  refine .bind_same fun extensions => .bind_same fun target => ?_
  cases target with
  | none => exact .throw _
  | some typeName =>
    by_cases hclass : objectClass = .relationship
    · simp only [hclass, if_true]
      exact s.relationDraft_stricter typeName extensions
    · simp only [hclass, if_false]
      exact s.entityDraft_stricter typeName extensions

theorem conversion_stricter (objectClass : ObjectClass) :
    Stricter s.stixId Conversion.skipped ((s.under false).conversion objectClass)
      ((s.under true).conversion objectClass) := by
  refine .bind (s.draft_stricter objectClass) (fun drafted hnone => ?_) ?_
  · exact .bind_same fun statements => .pure hnone
  · intro drafted v b w failure hb hsome
    obtain ⟨statements, u, -, hb⟩ := bind_eq_ok.mp hb
    obtain ⟨rfl, rfl⟩ := pure_eq_ok.mp hb
    exact hsome

end Subject

/-- Whether it is converted strictly or leniently does not matter to what an object is. -/
theorem Subject.identify_under (m : Mapping) (object : Members) :
    (∃ s : Subject, identify m false object = .ok (s.under false) ∧
      identify m true object = .ok (s.under true)) ∨
    ∃ rejection, identify m false object = .error rejection ∧
      identify m true object = .error rejection := by
  unfold identify
  cases requiredText object "id" none with
  | error rejection => exact .inr ⟨rejection, rfl, rfl⟩
  | ok stixId =>
    cases hstixType : requiredText object "type" (some stixId) with
    | error rejection => exact .inr ⟨rejection, by simp [hstixType, bind, Except.bind]⟩
    | ok stixType =>
      exact .inl ⟨⟨m, false, object, stixId, stixType⟩,
        by simp [hstixType, bind, Except.bind, under, pure, Except.pure]⟩

/-- Both conversions of an object are runs of one computation and its strict form. -/
theorem convertObject_stricter (m : Mapping) (object : Members) :
    ∃ stixId lenient strict, Stricter stixId Conversion.skipped lenient strict ∧
      convertObject m false object = (lenient.outcome {}).1 ∧
      convertObject m true object = (strict.outcome {}).1 ∧
      ∀ c, convertObject m false object = .ok c → c.stixId = stixId := by
  rcases Subject.identify_under m object with ⟨s, hlenient, hstrict⟩ |
    ⟨rejection, hlenient, hstrict⟩
  · have hfalse : convertObject m false object = (s.under false).convert := by
      rw [convertObject, hlenient]
      rfl
    have htrue : convertObject m true object = (s.under true).convert := by
      rw [convertObject, hstrict]
      rfl
    -- a custom type becomes nothing, in either way of converting
    cases hclass : s.mapping.classOf? s.stixType with
    | none =>
      have hnone (strict : Bool) : (s.under strict).convert = .ok { stixId := s.stixId } := by
        rw [Subject.convert, Subject.under]
        simp only [hclass]
      refine ⟨s.stixId, pure { stixId := s.stixId }, pure { stixId := s.stixId }, .pure rfl, ?_, ?_,
        fun c hc => ?_⟩
      · rw [hfalse, hnone]
        rfl
      · rw [htrue, hnone]
        rfl
      · rw [hfalse, hnone] at hc
        rw [← Except.ok.inj hc]
    | some objectClass =>
      have heq (strict : Bool) : (s.under strict).convert =
          (((s.under strict).conversion objectClass).outcome {}).1 :=
        (s.under strict).convert_eq_conversion hclass
      refine ⟨s.stixId, _, _, s.conversion_stricter objectClass, hfalse.trans (heq false),
        htrue.trans (heq true), fun c hc => ?_⟩
      rw [hfalse] at hc
      have hid : c.stixId = (s.under false).stixId := Subject.stixId_of_convert hc
      exact hid
  · refine ⟨"", throw (.rejected rejection), throw (.rejected rejection), .throw _, ?_, ?_,
      fun c hc => ?_⟩
    · rw [convertObject, hlenient]
      rfl
    · rw [convertObject, hstrict]
      rfl
    · rw [convertObject, hlenient] at hc
      simp [bind, Except.bind, Except.mapError] at hc

/-- **Strict and lenient conversions agree.** Whatever the mapping and the object, a strict
conversion succeeds exactly if the lenient one does and skips nothing but properties that are not
mapped, and then with the same result. If the lenient one succeeds and skips anything else, the
strict one fails with the first failure: with the defect of the mapping, or with a rejection of
code 204 that names the property and the object. If the lenient one fails, so does the strict
one. -/
theorem strict_agrees_with_lenient (m : Mapping) (object : Members) :
    (∀ c, convertObject m true object = .ok c ↔
      convertObject m false object = .ok c ∧ ∀ entry ∈ c.skipped, entry.reason = .unmapped) ∧
    (∀ c, convertObject m false object = .ok c → (∃ entry ∈ c.skipped, entry.reason ≠ .unmapped) →
      ∃ before entry after, c.skipped = before ++ entry :: after ∧
        (∀ earlier ∈ before, earlier.reason = .unmapped) ∧
        ((∃ defect, entry.reason = .failed (.mapping defect) ∧
            convertObject m true object = .error (.mapping defect)) ∨
          ∃ defect rejection, entry.reason = .failed (.value defect) ∧
            convertObject m true object = .error (.rejected rejection) ∧
            rejection.kind.code = 204 ∧
            rejection.detail = some (entry.name ++ ": " ++ defect.message) ∧
            rejection.stixId = some c.stixId)) ∧
    ∀ defect, convertObject m false object = .error defect →
      ∃ defect', convertObject m true object = .error defect' := by
  obtain ⟨stixId, x, y, hxy, hlenient, hstrict, hid⟩ := convertObject_stricter m object
  rw [hlenient, hstrict]
  rw [hlenient] at hid
  rcases hx : x.outcome {} with ⟨defect | c, w⟩
  -- the strict conversion fails as well, so neither result exists
  · obtain ⟨defect', hy⟩ := hxy.error (congrArg Prod.fst hx)
    rw [hy]
    refine ⟨fun c => ?_, fun c hc => ?_, fun _ _ => ⟨defect', rfl⟩⟩
    · simp
    · simp at hc
  · rw [hx] at hid
    obtain rfl := hid c rfl
    refine ⟨fun c' => ?_, fun c' hc hfailed => ?_, fun defect hdefect => ?_⟩
    · rw [← firstFailure?_eq_none]
      rcases hfirst : firstFailure? c.skipped with _ | ⟨label, defect⟩
      · rw [hxy.agree hx hfirst]
        constructor
        · intro hc
          obtain rfl := Except.ok.inj hc
          exact ⟨rfl, hfirst⟩
        · exact And.left
      · rw [hxy.failure hx hfirst]
        constructor
        · intro hc
          cases hc
        · rintro ⟨hc, hnone⟩
          obtain rfl := Except.ok.inj hc
          simp [hfirst] at hnone
    · obtain rfl := Except.ok.inj hc
      rcases hfirst : firstFailure? c.skipped with _ | ⟨label, defect⟩
      · obtain ⟨entry, hentry, hreason⟩ := hfailed
        exact absurd (firstFailure?_eq_none.mp hfirst entry hentry) hreason
      · obtain ⟨before, after, hskipped, hbefore⟩ := firstFailure?_eq_some hfirst
        refine ⟨before, _, after, hskipped, hbefore, ?_⟩
        rw [hxy.failure hx hfirst]
        cases defect with
        | mapping defect => exact .inl ⟨defect, rfl, rfl⟩
        | value defect => exact .inr ⟨defect, _, rfl, rfl, rfl, rfl, rfl⟩
    · cases hdefect

/-- A tool with a color, which is not mapped, and with numbers for its name and its maker. -/
def misstatedTool : Members :=
  [("id", .string "tool--1"), ("type", .string "tool"), ("color", .string "red"),
    ("name", .integer 1), ("maker", .integer 2)]

/-- Three properties of the tool are not mapped, and two fail. The strict conversion reports the
first of these two. An object without any property is converted neither way. -/
theorem strict_agrees_with_lenient_misstated : ∃ m c first second rejection,
    Mapping.ofDocuments toolDocuments = .ok m ∧
    convertObject m false misstatedTool = .ok c ∧
    c.skipped = [⟨"id", .unmapped⟩, ⟨"type", .unmapped⟩, ⟨"color", .unmapped⟩,
      ⟨"name", .failed (.value first)⟩, ⟨"maker", .failed (.value second)⟩] ∧
    convertObject m true misstatedTool = .error (.rejected rejection) ∧
    rejection.kind.code = 204 ∧ rejection.detail = some ("name: " ++ first.message) ∧
    rejection.stixId = some "tool--1" ∧
    ∃ defect defect', convertObject m false [] = .error defect ∧
      convertObject m true [] = .error defect' := by
  have hrun : ∃ m c first second defect, Mapping.ofDocuments toolDocuments = .ok m ∧
      convertObject m false misstatedTool = .ok c ∧ c.stixId = "tool--1" ∧
      c.skipped = [⟨"id", .unmapped⟩, ⟨"type", .unmapped⟩, ⟨"color", .unmapped⟩,
        ⟨"name", .failed (.value first)⟩, ⟨"maker", .failed (.value second)⟩] ∧
      convertObject m false [] = .error defect :=
    ⟨_, _, _, _, _, rfl, rfl, rfl, rfl, rfl⟩
  obtain ⟨m, c, first, second, defect, hm, hc, hid, hskipped, hnothing⟩ := hrun
  obtain ⟨-, hfails, -⟩ := strict_agrees_with_lenient m misstatedTool
  obtain ⟨defect', hnothing'⟩ := (strict_agrees_with_lenient m []).2.2 defect hnothing
  obtain ⟨before, entry, after, hsplit, hbefore, hreported⟩ := hfails c hc
    ⟨⟨"name", .failed (.value first)⟩, by simp [hskipped], nofun⟩
  -- the entry that is reported is the first failure, which is that of the name
  have hfirst {failure : PropertyDefect} (hreason : entry.reason = .failed failure) :
      some (entry.name, failure) = some ("name", .value first) := by
    have hfound : firstFailure? c.skipped = some ("name", .value first) := by
      rw [hskipped]
      rfl
    rw [← hfound, hsplit, firstFailure?_append, firstFailure?_eq_none.mpr hbefore, Option.none_or,
      firstFailure?, List.findSome?_cons, Skipped.failure?, hreason]
  rcases hreported with ⟨_, hreason, -⟩ | ⟨_, rejection, hreason, hstrict, hcode, hdetail, hstixId⟩
  · exact nomatch (Prod.mk.inj (Option.some.inj (hfirst hreason))).2
  · obtain ⟨hname, hfailure⟩ := Prod.mk.inj (Option.some.inj (hfirst hreason))
    obtain rfl := PropertyDefect.value.inj hfailure
    rw [hname] at hdetail
    rw [hid] at hstixId
    exact ⟨m, c, _, second, rejection, hm, hc, hskipped, hstrict, hcode, hdetail, hstixId, defect,
      defect', hnothing, hnothing'⟩

end ThreatGraph
