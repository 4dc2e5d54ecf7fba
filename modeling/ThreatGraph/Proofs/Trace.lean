import ThreatGraph.Mapping.Loading
import ThreatGraph.Proofs.Remainder

/-!
# A skipped property leaves no trace

If a lenient conversion skips a property, then without it the object is converted to the same
statements up to a renaming of variables, and all other properties are skipped as before
(`skipped_leaves_no_trace`). From single lists of properties (`propertiesBy_without`) this is
carried to all properties of an object, to its draft and to its conversion: all but the properties
is the same for the rest of an object, and comes before them, so it keeps its names.

There are two conditions, and `skipped_may_leave_trace` shows that neither can be left out.
-/

namespace ThreatGraph

open Variables (nameOf between)
open Naming

namespace Subject

variable {s : Subject} {object' : Members} {p : Property}

/-! ## All properties of an object -/

section Properties

variable {self : Reference} {entry : String → Except MappingDefect (Option AttributeInfo)}
  {name : String → String} {v w : Variables} {c : Collected} {extensions : Option Members}
  {reason : SkipReason}

/-- The properties of an object are its own members, but for role players, and those of its
predefined extension. -/
theorem properties_parts (hextensions : s.extensions = .ok extensions) :
    (s.properties self s.roleplayers extensions).outcome v = (.ok c, w) ↔
    s.mapping.relevantExtension s.stixId s.stixType extensions =
      .ok (s.extension?.map Prod.fst) ∧
    ∃ own u, (s.propertiesBy self (s.mapping.attribute? s.stixType) id s.ownMembers).outcome v =
        (.ok own, u) ∧
      ((s.extension? = none ∧ c = own ∧ w = u) ∨
        ∃ extension members more, s.extension? = some (extension, members) ∧
          (s.propertiesBy self (s.mapping.extensionAttribute? s.stixType extension)
            (fun property => extension ++ "." ++ property) members).outcome u = (.ok more, w) ∧
          c = own ++ more) := by
  rw [properties_eq_ok]
  constructor
  · rintro ⟨own, u, relevant, hown, hrelevant, hrest⟩
    have hextension := extension?_of_relevant hextensions hrelevant
    rcases hrest with ⟨rfl, rfl, rfl⟩ | ⟨extension, members, more, rfl, hmembers, hmore, rfl⟩
    · have hnone : s.extension? = none := hextension
      rw [hnone]
      exact ⟨hrelevant, c, w, hown, .inl ⟨rfl, rfl, rfl⟩⟩
    · have hsome : s.extension? = some (extension, members) := by
        rw [hextension, Option.bind_some, hmembers, Option.map_some]
      rw [hsome]
      exact ⟨hrelevant, own, u, hown, .inr ⟨extension, members, more, rfl, hmore, rfl⟩⟩
  · -- the extension as the object has it and as it is looked up are the same by `hextension`
    rintro ⟨hrelevant, own, u, hown, hrest⟩
    have hextension := extension?_of_relevant hextensions hrelevant
    refine ⟨own, u, _, hown, hrelevant, ?_⟩
    rcases hrest with ⟨hnone, rfl, rfl⟩ | ⟨extension, members, more, hsome, hmore, rfl⟩
    · exact .inl ⟨by rw [hnone, Option.map_none], rfl, rfl⟩
    · rw [hsome, Option.map_some, Option.bind_some] at hextension
      obtain ⟨found, hfound, hpair⟩ := Option.map_eq_some_iff.mp hextension.symm
      obtain rfl := (Prod.mk.inj hpair).2
      exact .inr ⟨extension, found, more, by rw [hsome, Option.map_some], hfound, hmore, rfl⟩

/-- Properties are converted in the same way with the rest of the object. -/
theorem propertiesBy_on (members : Members) : (s.on object').propertiesBy self entry name members =
    s.propertiesBy self entry name members := by
  induction members with
  | nil => rfl
  | cons member rest ih =>
    rw [propertiesBy, propertiesBy, ih]
    rfl

/-- The value of a property that is not kept does not matter. -/
theorem propertiesBy_set {info : AttributeInfo} {property : String}
    (hentry : entry property = .ok (some info)) (hempty : info.valueType = .empty) (value : Json)
    (keep : String → Bool) {members : Members} (hmember : property ∈ Table.names members) :
    s.propertiesBy self entry name
        ((Table.set members property value).filter fun member => keep member.1) =
      s.propertiesBy self entry name (members.filter fun member => keep member.1) := by
  -- a property of the empty type is converted alike whatever it holds
  have hvalue (label : String) (raw raw' : Json) :
      s.property self label (some info) raw = s.property self label (some info) raw' := by
    simp only [Subject.property, hempty, convertValue]
  induction members with
  | nil => exact absurd hmember List.not_mem_nil
  | cons member rest ih =>
    obtain ⟨other, old⟩ := member
    by_cases heq : other = property
    · subst heq
      rw [Table.set, if_pos rfl, List.filter_cons, List.filter_cons]
      split
      · rw [propertiesBy, propertiesBy, hentry]
        change s.property self (name other) (some info) value >>= _ =
          s.property self (name other) (some info) old >>= _
        rw [hvalue _ value old]
      · rfl
    · have hrest : property ∈ Table.names rest :=
        (List.mem_cons.mp hmember).resolve_left fun h => heq h.symm
      rw [Table.set, if_neg heq, List.filter_cons, List.filter_cons]
      split
      · rw [propertiesBy, propertiesBy, ih hrest]
      · exact ih hrest

/-- If all properties that are called like it are reported, then a property is skipped. -/
theorem Without.skips (h : s.Without p object') (hself : self.First) (hv : 0 < v.issued)
    (hextensions : s.extensions = .ok extensions)
    (hc : (s.properties self s.roleplayers extensions).outcome v = (.ok c, w))
    (hreported : s.labels.count p.label ≤ (c.skipped.map Skipped.name).count p.label) :
    ∃ reason, s.Skips self p reason := by
  obtain ⟨-, own, u, hown, hrest⟩ := (properties_parts hextensions).mp hc
  have hownReported := (propertiesBy_reported _ hown).count_le p.label
  rw [List.map_id] at hownReported
  cases h with
  | @own before after p raw hobject _ hroleplayer _ =>
    dsimp only at hreported hownReported
    -- reports of the extension are no more than its properties, so all others are of the object
    have hall : ((Table.names s.ownMembers).map id).count p ≤
        (own.skipped.map Skipped.name).count p := by
      rw [List.map_id]
      rcases hrest with ⟨hnone, rfl, rfl⟩ | ⟨extension, members, more, hsome, hmore, rfl⟩
      · rwa [labels_of_none hnone] at hreported
      · have hmoreReported := (propertiesBy_reported members hmore).count_le p
        change _ ≤ ((own.skipped ++ more.skipped).map Skipped.name).count p at hreported
        rw [labels_of_some hsome, List.map_append, List.count_append, List.count_append]
          at hreported
        omega
    rw [ownMembers_eq hobject hroleplayer] at hown hall
    exact propertiesBy_skips hself hv hown hall
  | @inside found before after extension p raw info hget hextension _ _ =>
    rcases hrest with ⟨hnone, -, -⟩ | ⟨_, _, more, hsome, hmore, rfl⟩
    · rw [hextension] at hnone
      cases hnone
    -- the same the other way round: the object's own reports are no more than its own properties
    · obtain ⟨rfl, rfl⟩ := Prod.mk.inj (Option.some.inj (hextension.symm.trans hsome))
      have hall : ((Table.names (before ++ (p, raw) :: after)).map
          fun property => extension ++ "." ++ property).count (extension ++ "." ++ p) ≤
            (more.skipped.map Skipped.name).count (extension ++ "." ++ p) := by
        change _ ≤ ((own.skipped ++ more.skipped).map Skipped.name).count _ at hreported
        rw [labels_of_some hextension, List.map_append, List.count_append, List.count_append]
          at hreported
        dsimp only at hreported hownReported
        change _ ≤ (Table.names s.ownMembers).count (extension ++ "." ++ p) at hownReported
        omega
      exact propertiesBy_skips hself (Nat.lt_of_lt_of_le hv (propertiesBy_drawn _ hown).le) hmore
        hall

/-- A property of the object itself is left out. -/
theorem properties_own {before after : Members} {p : String} {raw : Json}
    (hobject : s.object = before ++ (p, raw) :: after) (hroleplayer : p ∉ s.roleplayers)
    (hextensions : s.extensions = .ok extensions)
    (hextensions' : (s.on (before ++ after)).extensions = .ok extensions)
    (hextension : (s.on (before ++ after)).extension? = s.extension?)
    (hself : self.First) (hv : 0 < v.issued)
    (hskips : s.Skips self ⟨p, s.mapping.attribute? s.stixType p, raw⟩ reason)
    (hc : (s.properties self s.roleplayers extensions).outcome v = (.ok c, w)) :
    ∃ start width c' w', v.issued ≤ start ∧ c.Without start width ⟨p, reason⟩ c' ∧
      ((s.on (before ++ after)).properties self s.roleplayers extensions).outcome v =
        (.ok c', w') := by
  obtain ⟨hrelevant, own, u, hown, hrest⟩ := (properties_parts hextensions).mp hc
  rw [ownMembers_eq hobject hroleplayer] at hown
  obtain ⟨start, width, own', u', hwithout, hown', hstart, hend, hu⟩ :=
    propertiesBy_without hself hv hskips hown
  rw [← List.filter_append] at hown'
  have hrest' : ∃ c' w', c.Without start width ⟨p, reason⟩ c' ∧
      ((s.extension? = none ∧ c' = own' ∧ w' = u') ∨
        ∃ extension members more, s.extension? = some (extension, members) ∧
          (s.propertiesBy self (s.mapping.extensionAttribute? s.stixType extension)
            (fun property => extension ++ "." ++ property) members).outcome u' =
              (.ok more, w') ∧
          c' = own' ++ more) := by
    rcases hrest with ⟨hnone, rfl, rfl⟩ | ⟨extension, members, more, hsome, hmore, rfl⟩
    · exact ⟨own', u', hwithout, .inl ⟨hnone, rfl, rfl⟩⟩
    -- the extension comes after the gap
    · have hfixed := hself.openGap (Nat.lt_of_lt_of_le hv hstart) width
      rw [hu] at hmore
      obtain ⟨more', w', hmore', -, rfl, -⟩ := propertiesBy_after_gap hmore hend hfixed
      exact ⟨own' ++ more', w', hwithout.append_right,
        .inr ⟨extension, members, more', hsome, hmore', rfl⟩⟩
  obtain ⟨c', w', hwithout', hrest'⟩ := hrest'
  refine ⟨start, width, c', w', hstart, hwithout', (properties_parts hextensions').mpr ?_⟩
  rw [hextension]
  simp only [propertiesBy_on]
  exact ⟨hrelevant, own', u', hown', hrest'⟩

/-- A property of the predefined extension is left out. -/
theorem properties_inside {found before after : Members} {extension p : String} {raw : Json}
    {info : AttributeInfo} (hget : s.object.get? "extensions" = some (.object found))
    (hextension : s.extension? = some (extension, before ++ (p, raw) :: after))
    (hinfo : s.mapping.attribute? s.stixType "extensions" = .ok (some info))
    (hempty : info.valueType = .empty)
    {object' : Members} {extensions' : Option Members} {value : Json}
    (hobject' : object' = Table.set s.object "extensions" value)
    (hextensions : s.extensions = .ok extensions)
    (hextensions' : (s.on object').extensions = .ok extensions')
    (hrelevant' : s.mapping.relevantExtension s.stixId s.stixType extensions' =
      s.mapping.relevantExtension s.stixId s.stixType extensions)
    (hextension' : (s.on object').extension? = some (extension, before ++ after))
    (hself : self.First) (hv : 0 < v.issued)
    (hskips : s.Skips self
      ⟨extension ++ "." ++ p, s.mapping.extensionAttribute? s.stixType extension p, raw⟩ reason)
    (hc : (s.properties self s.roleplayers extensions).outcome v = (.ok c, w)) :
    ∃ start width c' w', v.issued ≤ start ∧
      c.Without start width ⟨extension ++ "." ++ p, reason⟩ c' ∧
      ((s.on object').properties self s.roleplayers extensions').outcome v = (.ok c', w') := by
  obtain ⟨hrelevant, own, u, hown, hrest⟩ := (properties_parts hextensions).mp hc
  rcases hrest with ⟨hnone, -, -⟩ | ⟨_, _, more, hsome, hmore, rfl⟩
  · rw [hextension] at hnone
    cases hnone
  obtain ⟨rfl, rfl⟩ := Prod.mk.inj (Option.some.inj (hextension.symm.trans hsome))
  have hdrawn := propertiesBy_drawn _ hown
  have hu := Nat.lt_of_lt_of_le hv hdrawn.le
  obtain ⟨start, width, more', w', hwithout, hmore', hstart, -, -⟩ :=
    propertiesBy_without hself hu hskips hmore
  have hfixed := hself.openGap (Nat.lt_of_lt_of_le hu hstart) width
  refine ⟨start, width, own ++ more', w', Nat.le_trans hdrawn.le hstart,
    hwithout.append_left (rename_of_drawn hdrawn hstart hfixed),
    (properties_parts hextensions').mpr ⟨?_, own, u, ?_, .inr ?_⟩⟩
  · rw [hextension', Option.map_some]
    rw [hextension, Option.map_some] at hrelevant
    exact hrelevant'.trans hrelevant
  -- the member `extensions` itself has another value now, which is not kept
  · rw [propertiesBy_on, ← hown, hobject']
    exact congrArg (outcome · v) (propertiesBy_set hinfo hempty value
      (fun name => !s.roleplayers.contains name) (Table.mem_names_of_get? hget))
  · simp only [propertiesBy_on]
    exact ⟨extension, before ++ after, more', hextension', hmore', rfl⟩

/-- The properties of the rest are converted as those of the object but for the one that is left
out. -/
theorem Without.properties (h : s.Without p object') (hextensions : s.extensions = .ok extensions) :
    ∃ extensions', (s.on object').extensions = .ok extensions' ∧
      s.mapping.relevantExtension s.stixId s.stixType extensions' =
        s.mapping.relevantExtension s.stixId s.stixType extensions ∧
      ∀ {self v w c reason}, self.First → 0 < v.issued → s.Skips self p reason →
        (s.properties self s.roleplayers extensions).outcome v = (.ok c, w) →
        ∃ start width c' w', v.issued ≤ start ∧ c.Without start width ⟨p.label, reason⟩ c' ∧
          ((s.on object').properties self s.roleplayers extensions').outcome v = (.ok c', w') := by
  cases h with
  | @own before after p raw hobject hp hroleplayer _ =>
    -- `extensions` is not the member that is left out, so it is found as before
    have hget : Members.get? (before ++ after) "extensions" = s.object.get? "extensions" := by
      rw [hobject]
      refine (get?_without ?_).symm
      rintro rfl
      simp at hp
    have hextensions' : (s.on (before ++ after)).extensions = .ok extensions :=
      (extensions_on hget).trans hextensions
    have hextension : (s.on (before ++ after)).extension? = s.extension? := by
      rw [extension?]
      rw [on_object, hget]
      rfl
    exact ⟨extensions, hextensions', rfl, fun hself hv hskips hc =>
      properties_own hobject hroleplayer hextensions hextensions' hextension hself hv hskips hc⟩
  | @inside found before after extension p raw info hfound hextension hinfo hempty =>
    obtain ⟨_, hfound', hname, hget⟩ := extension?_eq_some.mp hextension
    obtain rfl := Json.object.inj (Option.some.inj (hfound.symm.trans hfound'))
    obtain rfl : extensions = some found := by
      rw [Subject.extensions] at hextensions
      rw [hfound] at hextensions
      exact (Except.ok.inj hextensions).symm
    have hset {members : Members} {property : String} (value : Json) :
        Members.get? (Table.set members property value) property = some value :=
      (Table.get?_set ..).trans (if_pos rfl)
    -- which extension is relevant depends on the names only, and they stay
    have hrelevant : s.mapping.relevantExtension s.stixId s.stixType
        (some (Table.set found extension (.object (before ++ after)))) =
          s.mapping.relevantExtension s.stixId s.stixType (some found) :=
      Mapping.relevantExtension_set hget _
    have hextensions' : (s.on (Table.set s.object "extensions"
        (.object (Table.set found extension (.object (before ++ after)))))).extensions =
          .ok (some (Table.set found extension (.object (before ++ after)))) := by
      rw [Subject.extensions]
      rw [on_object, hset]
    refine ⟨_, hextensions', hrelevant, fun hself hv hskips hc => ?_⟩
    refine properties_inside hfound hextension hinfo hempty rfl hextensions hextensions' hrelevant
      ?_ hself hv hskips hc
    exact extension?_eq_some.mpr ⟨_, hset _, hrelevant.trans hname, hset _⟩

end Properties

/-! ## Drafts and conversions -/

section Drafts

variable {w : Variables} {objectClass : ObjectClass} {d : Draft × List Skipped}

/-- Properties refer to an object by its first variable. -/
theorem reference_first : s.reference.First := Reference.known_first _ _

/-- That reference is the one that the conversion uses, once the type is chosen. -/
theorem reference_eq {extensions : Option Members} {typeName : String}
    (hextensions : s.extensions = .ok extensions)
    (htarget : s.mapping.targetType? s.stixId s.stixType s.object extensions =
      .ok (some typeName)) :
    s.reference = .known (some s.stixId) (some (nameOf 0)) (some typeName) := by
  rw [reference]
  rw [hextensions]
  simp [Except.toOption, htarget]

/-- An object is drafted as its main thing with all that its properties are converted to, and the
rest of it as the same main thing with all that its properties are converted to. -/
theorem Without.draft (h : s.Without p object')
    (hsubtype : s.subtypeProperty? = some "extensions" →
      object'.get? "extensions" = s.object.get? "extensions")
    (hclass : s.mapping.classOf? s.stixType = some objectClass)
    (hd : (s.draft objectClass).outcome {} = (.ok d, w)) :
    ∃ extensions v c main, s.extensions = .ok extensions ∧ 0 < v.issued ∧
      (s.properties s.reference s.roleplayers extensions).outcome v = (.ok c, w) ∧
      main.vars.Perm (between {} v) ∧ main.Scoped ∧
      d = ({ toAttachments := c.attachments, main := some main }, c.skipped) ∧
      ∀ {extensions' c' w'}, (s.on object').extensions = .ok extensions' →
        s.mapping.relevantExtension s.stixId s.stixType extensions' =
          s.mapping.relevantExtension s.stixId s.stixType extensions →
        ((s.on object').properties s.reference s.roleplayers extensions').outcome v =
          (.ok c', w') → c.attributes = c'.attributes →
        ((s.on object').draft objectClass).outcome {} =
          (.ok ({ toAttachments := c'.attachments, main := some main }, c'.skipped), w') := by
  obtain ⟨extensions, typeName, hextensions, htarget, hd⟩ := draft_eq_ok.mp hd
  have hreference := reference_eq hextensions htarget
  by_cases hrelationship : objectClass = .relationship
  · rw [if_pos hrelationship] at hd
    obtain ⟨roleplayers, players, v, c, hroleplayers, hplayers, hnonempty, hc, rfl⟩ :=
      relationDraft_eq_ok.mp hd
    obtain rfl : s.roleplayers = roleplayers :=
      roleplayers_eq (hrelationship ▸ hclass) hroleplayers
    obtain ⟨hle, hvars⟩ := players_vars s.roleplayers hplayers
    refine ⟨extensions, v, c, _, hextensions, hle, by rwa [hreference],
      mainRelation_vars hle hvars c.attributes, mainRelation_scoped _ _ _ _, rfl, ?_⟩
    intro extensions' c' w' hextensions' hrelevant hc' hattributes
    refine draft_eq_ok.mpr
      ⟨extensions', typeName, hextensions', (h.targetType? hsubtype hrelevant).trans htarget, ?_⟩
    rw [if_pos hrelationship]
    rw [hreference] at hc'
    refine relationDraft_eq_ok.mpr
      ⟨s.roleplayers, players, v, c', hroleplayers, ?_, hnonempty, hc', ?_⟩
    · rwa [h.players]
    · rw [h.mainRelation, hattributes]
  · rw [if_neg hrelationship] at hd
    obtain ⟨c, hc, rfl⟩ := entityDraft_eq_ok.mp hd
    have hnone : s.roleplayers = [] := roleplayers_eq_nil hclass hrelationship
    -- an entity has no players, so its properties are all members
    refine ⟨extensions, ⟨1⟩, c, _, hextensions, Nat.one_pos, by rwa [hreference, hnone],
      .of_eq (mainEntity_vars 0 typeName c.attributes), trivial, rfl, ?_⟩
    intro extensions' c' w' hextensions' hrelevant hc' hattributes
    refine draft_eq_ok.mpr
      ⟨extensions', typeName, hextensions', (h.targetType? hsubtype hrelevant).trans htarget, ?_⟩
    rw [if_neg hrelationship]
    rw [hreference, hnone] at hc'
    refine entityDraft_eq_ok.mpr ⟨c', hc', ?_⟩
    rw [hattributes]

end Drafts

/-- If a property is reported, then it is skipped or another one is that is called like it, and if
it is skipped, the rest is converted in the same way, but for a gap. -/
theorem Without.convert (h : s.Without p object')
    (hsubtype : s.subtypeProperty? = some "extensions" →
      object'.get? "extensions" = s.object.get? "extensions")
    {c : Conversion} (hc : s.convert = .ok c)
    (hreported : p.label ∈ c.skipped.map Skipped.name) :
    (s.labels.count p.label ≤ (c.skipped.map Skipped.name).count p.label →
      ∃ reason, s.Skips s.reference p reason) ∧
    ∀ reason, s.Skips s.reference p reason →
      ∃ statements' skipped' start width,
        (s.on object').convert = .ok ⟨s.stixId, statements', skipped'⟩ ∧
        c.statements = statements'.rename (openGap start width) ∧
        (reason = .unmapped → width = 0) ∧
        ∃ before after, c.skipped = before ++ ⟨p.label, reason⟩ :: after ∧
          skipped' = before ++ after := by
  rcases convert_ok hc with ⟨-, rfl⟩ |
    ⟨objectClass, d, skipped, w, statements, hclass, hdraft, horder, rfl⟩
  · exact absurd hreported List.not_mem_nil
  obtain ⟨extensions, v, collected, main, hextensions, hv, hcollected, hvars, hscoped, hd,
    hrest⟩ := h.draft hsubtype hclass hdraft
  obtain ⟨rfl, rfl⟩ := Prod.mk.inj hd
  refine ⟨h.skips reference_first hv hextensions hcollected, fun reason hskips => ?_⟩
  obtain ⟨extensions', hextensions', hrelevant, hproperties⟩ := h.properties hextensions
  obtain ⟨start, width, c', w', hstart, hwithout, hc'⟩ :=
    hproperties reference_first hv hskips hcollected
  have hdraft' := hrest hextensions' hrelevant hc' hwithout.attributes
  -- the main thing comes before all properties, so it keeps its names
  have hmain : main.rename (openGap start width) = main := by
    refine MainThing.rename_eq_self (fun x hx => ?_) hscoped
    exact openGap_of_mem_between start width (hvars.mem_iff.mp hx) hstart
  have hrename : ({ toAttachments := collected.attachments, main := some main } : Draft) =
      Draft.rename (openGap start width)
        { toAttachments := c'.attachments, main := some main } := by
    simp only [Draft.rename, ← hwithout.attachments, Option.map_some, hmain]
  rw [hrename, Draft.order_rename] at horder
  rcases horder' : Draft.order { toAttachments := c'.attachments, main := some main }
    with defect | statements'
  · simp [horder', Except.map] at horder
  rw [horder'] at horder
  refine ⟨statements', c'.skipped, start, width, ?_, (Except.ok.inj horder).symm,
    hwithout.unmapped, hwithout.skipped⟩
  have hrun : ((s.on object').conversion objectClass).outcome {} =
      (.ok ⟨s.stixId, statements', c'.skipped⟩, w') := by
    refine bind_eq_ok.mpr ⟨_, w', hdraft', bind_eq_ok.mpr ⟨statements', w', ?_, rfl⟩⟩
    rw [horder']
    rfl
  rw [(s.on object').convert_eq_conversion hclass, hrun]

end Subject

/-- The property behind the entry has left no trace in `c`: what remains without it, `object'`, is
converted to the same statements up to a renaming of variables, which is none if the property is
not mapped, and the same other properties are skipped. -/
def Conversion.NoTrace (c : Conversion) (m : Mapping) (entry : Skipped) (object' : Members) :
    Prop :=
  ∃ c', convertObject m false object' = .ok c' ∧ c'.stixId = c.stixId ∧
    (∃ before after, c.skipped = before ++ entry :: after ∧ c'.skipped = before ++ after) ∧
    (∃ ρ : String → String, Function.Injective ρ ∧ c.statements = c'.statements.rename ρ) ∧
    (entry.reason = .unmapped → c'.statements = c.statements)

/-- **A skipped property leaves no trace.** Let a lenient conversion of an object succeed and report
the property `p` by its name, and let `p` not be inside the extensions if these are what the type
is chosen by. If the name is reported as often as there are properties that are called so, for
example because there is only one, then `p` is skipped. And if `p` is skipped, then it has left no
trace but its report. -/
theorem skipped_leaves_no_trace {m : Mapping} {object object' : Members} {p : Property}
    {s : Subject} {c : Conversion} (hs : Subject.identify m false object = .ok s)
    (hc : convertObject m false object = .ok c) (h : s.Without p object')
    (hsubtype : s.subtypeProperty? = some "extensions" →
      object'.get? "extensions" = object.get? "extensions")
    (hreported : p.label ∈ c.skipped.map Skipped.name) :
    (s.labels.count p.label ≤ (c.skipped.map Skipped.name).count p.label →
      ∃ reason, s.Skips s.reference p reason) ∧
    ∀ reason, s.Skips s.reference p reason → c.NoTrace m ⟨p.label, reason⟩ object' := by
  obtain ⟨_, hs', hconvert⟩ := convertObject_ok hc
  obtain rfl := Except.ok.inj (hs.symm.trans hs')
  obtain rfl : s.object = object := by
    obtain ⟨stixId, stixType, -, -, rfl⟩ := Subject.identify_eq_ok.mp hs
    rfl
  obtain ⟨hskipped, hrest⟩ := h.convert hsubtype hconvert hreported
  refine ⟨hskipped, fun reason hskips => ?_⟩
  obtain ⟨statements', skipped', start, width, hconvert', hstatements, hunmapped, hwithout⟩ :=
    hrest reason hskips
  have hstixId : c.stixId = s.stixId := Subject.stixId_of_convert hconvert
  refine ⟨⟨s.stixId, statements', skipped'⟩, ?_, hstixId.symm, hwithout,
    ⟨_, openGap_injective start width, hstatements⟩, fun hreason => ?_⟩
  · rw [convertObject, h.identify hs]
    exact hconvert'
  · rw [hstatements, hunmapped hreason, openGap_zero, OrderedStatements.rename_id]

/-- A tool whose second phase has a number for a title, and a maker. -/
def misphasedTool : Members :=
  [("id", .string "tool--1"), ("type", .string "tool"),
    ("phases", .array [.object [("title", .string "a")], .object [("title", .integer 2)]]),
    ("maker", .string "identity--1")]

/-- The phases of the tool draw three variables before they fail. -/
theorem skipped_leaves_no_trace_phases : ∃ m c reason,
    Mapping.ofDocuments toolDocuments = .ok m ∧
    convertObject m false misphasedTool = .ok c ∧
    c.statements.vars = ["v0", "v5", "v4", "v6"] ∧
    c.NoTrace m ⟨"phases", reason⟩ [("id", .string "tool--1"), ("type", .string "tool"),
      ("maker", .string "identity--1")] := by
  have hrun : ∃ m s c, Mapping.ofDocuments toolDocuments = .ok m ∧
      Subject.identify m false misphasedTool = .ok s ∧
      convertObject m false misphasedTool = .ok c ∧
      c.statements.vars = ["v0", "v5", "v4", "v6"] ∧ s.object = misphasedTool ∧
      s.roleplayers = [] ∧ s.subtypeProperty? = none ∧
      "phases" ∈ c.skipped.map Skipped.name ∧
      s.labels.count "phases" ≤ (c.skipped.map Skipped.name).count "phases" :=
    ⟨_, _, _, rfl, rfl, rfl, by decide +kernel, rfl, rfl, rfl, by decide +kernel,
      by decide +kernel⟩
  obtain ⟨m, s, c, hm, hs, hc, hvars, hobject, hroleplayers, hsubtype, hreported, hcount⟩ := hrun
  have hrest : s.Without ⟨"phases", s.mapping.attribute? s.stixType "phases",
      .array [.object [("title", .string "a")], .object [("title", .integer 2)]]⟩
      [("id", .string "tool--1"), ("type", .string "tool"), ("maker", .string "identity--1")] := by
    refine @Subject.Without.own s [_, _] _ "phases" _ hobject (by decide) ?_ ?_
    · simp [hroleplayers]
    · simp [hsubtype]
  obtain ⟨hskipped, htrace⟩ :=
    skipped_leaves_no_trace hs hc hrest (by simp [hsubtype]) hreported
  obtain ⟨reason, hskips⟩ := hskipped hcount
  exact ⟨m, c, reason, hm, hc, hvars, htrace reason hskips⟩

/-- The types and attributes of what the first statement inserts. -/
def OrderedStatements.inserted (s : OrderedStatements) : Option (List (String × Attributes)) :=
  s.entities.map fun t => t.inserted.map fun thing => (thing.typeName, thing.attributes)

/-- Renaming variables leaves the types and attributes of what is inserted. -/
theorem OrderedStatements.inserted_rename (ρ : String → String) (s : OrderedStatements) :
    (s.rename ρ).inserted = s.inserted := by
  obtain ⟨entities, relations, embedded⟩ := s
  cases entities with
  | none => rfl
  | some t =>
    have hthing (thing : Thing) : ((thing.rename ρ).typeName, (thing.rename ρ).attributes) =
        (thing.typeName, thing.attributes) := by
      cases thing <;> rfl
    simp [rename, inserted, Statement.rename, hthing, Function.comp_def]

/-- Files with a predefined extension that keeps nothing, where extensions as such are not kept. -/
def fileDocuments (subtypes : Option SubtypeTable) (attributes : Table AttributeInfo) :
    Documents where
  classes := { cyberObservable := ["file"] }
  cyberObservables :=
    [("file",
      { typeName := "file", subtypes, extensions := [("note-ext", {})]
        attributes :=
          ("extensions", { name := "extensions", valueType := .empty }) :: attributes })]
  dictionary := ⟨"key", "property", ⟨"entry", "holder", "held"⟩, []⟩

/-- A file with some properties of its own and some of the extension. -/
def extendedFile (own inside : Members) : Members :=
  ("id", .string "file--1") :: ("type", .string "file") ::
    (own ++ [("extensions", .object [("note-ext", .object inside)])])

/-- A file whose type is chosen by the text of its extensions. -/
def notedDocuments : Documents :=
  fileDocuments
    (some ⟨"extensions",
      [("\x7b\"note-ext\":\x7b\"text\":\"x\"\x7d\x7d", "noted-file"), ("_", "file")]⟩) []

/-- A file with a property that is called like one of its extension. -/
def commentedDocuments : Documents :=
  fileDocuments none [("note-ext.text", { name := "comment", valueType := .scalar .string })]

/-- Neither condition of `skipped_leaves_no_trace` can be left out. A type can be chosen by the text
of all extensions, so that a file is of another type without a property inside them that is not
mapped. And a property can be called like one of an extension, so that it is reported as skipped
though it was converted. -/
theorem skipped_may_leave_trace :
    (∃ m s c p, Mapping.ofDocuments notedDocuments = .ok m ∧
      Subject.identify m false (extendedFile [] [("text", .string "x")]) = .ok s ∧
      convertObject m false (extendedFile [] [("text", .string "x")]) = .ok c ∧
      p.label = "note-ext.text" ∧ ⟨p.label, .unmapped⟩ ∈ c.skipped ∧
      s.Skips s.reference p .unmapped ∧ s.Without p (extendedFile [] []) ∧
      ¬ c.NoTrace m ⟨p.label, .unmapped⟩ (extendedFile [] [])) ∧
    ∃ m s c p, Mapping.ofDocuments commentedDocuments = .ok m ∧
      Subject.identify m false
        (extendedFile [("note-ext.text", .string "x")] [("text", .string "y")]) = .ok s ∧
      convertObject m false
        (extendedFile [("note-ext.text", .string "x")] [("text", .string "y")]) = .ok c ∧
      p.label = "note-ext.text" ∧ ⟨p.label, .unmapped⟩ ∈ c.skipped ∧
      s.Without p (extendedFile [] [("text", .string "y")]) ∧
      ¬ c.NoTrace m ⟨p.label, .unmapped⟩ (extendedFile [] [("text", .string "y")]) := by
  constructor
  · have hrun : ∃ m s c c', Mapping.ofDocuments notedDocuments = .ok m ∧
        Subject.identify m false (extendedFile [] [("text", .string "x")]) = .ok s ∧
        convertObject m false (extendedFile [] [("text", .string "x")]) = .ok c ∧
        c.skipped = [⟨"id", .unmapped⟩, ⟨"type", .unmapped⟩, ⟨"note-ext.text", .unmapped⟩] ∧
        c.statements.inserted = some [("noted-file", [])] ∧
        convertObject m false (extendedFile [] []) = .ok c' ∧
        c'.statements.inserted = some [("file", [])] ∧
        s.object = extendedFile [] [("text", .string "x")] ∧
        s.extension? = some ("note-ext", [("text", .string "x")]) ∧
        s.mapping.attribute? s.stixType "extensions" =
          .ok (some { name := "extensions", valueType := .empty }) ∧
        s.mapping.extensionAttribute? s.stixType "note-ext" "text" = .ok none :=
      ⟨_, _, _, _, rfl, rfl, rfl, rfl, rfl, rfl, rfl, rfl, rfl, rfl, rfl⟩
    obtain ⟨m, s, c, c', hm, hs, hc, hskipped, hinserted, hc', hinserted', hobject, hextension,
      hinfo, hunmapped⟩ := hrun
    have hget : s.object.get? "extensions" =
        some (.object [("note-ext", .object [("text", .string "x")])]) := by
      rw [hobject]
      rfl
    -- the type of the object is chosen by its extensions, so it changes with what is inside them
    have hrest := @Subject.Without.inside s _ [] [] _ _ _ _ hget hextension hinfo rfl
    rw [hobject] at hrest
    refine ⟨m, s, c, _, hm, hs, hc, rfl, ?_, ⟨none, _, hunmapped, rfl⟩, hrest, ?_⟩
    · simp [hskipped]
    · rintro ⟨found, hfound, -, -, ⟨ρ, -, hrename⟩, -⟩
      obtain rfl := Except.ok.inj (hc'.symm.trans hfound)
      rw [hrename, OrderedStatements.inserted_rename, hinserted'] at hinserted
      simp at hinserted
  · have hrun : ∃ m s c c', Mapping.ofDocuments commentedDocuments = .ok m ∧
        Subject.identify m false
          (extendedFile [("note-ext.text", .string "x")] [("text", .string "y")]) = .ok s ∧
        convertObject m false
          (extendedFile [("note-ext.text", .string "x")] [("text", .string "y")]) = .ok c ∧
        c.skipped = [⟨"id", .unmapped⟩, ⟨"type", .unmapped⟩, ⟨"note-ext.text", .unmapped⟩] ∧
        c.statements.inserted = some [("file", [("comment", [quote "x"])])] ∧
        convertObject m false (extendedFile [] [("text", .string "y")]) = .ok c' ∧
        c'.statements.inserted = some [("file", [])] ∧
        s.object = extendedFile [("note-ext.text", .string "x")] [("text", .string "y")] ∧
        s.roleplayers = [] ∧ s.subtypeProperty? = none :=
      ⟨_, _, _, _, rfl, rfl, rfl, rfl, rfl, rfl, rfl, rfl, rfl, rfl⟩
    obtain ⟨m, s, c, c', hm, hs, hc, hskipped, hinserted, hc', hinserted', hobject, hroleplayers,
      hsubtype⟩ := hrun
    -- the object has a property of its own under the label that the one inside the extension has
    have hrest : s.Without ⟨"note-ext.text", s.mapping.attribute? s.stixType "note-ext.text",
        .string "x"⟩ (extendedFile [] [("text", .string "y")]) := by
      refine @Subject.Without.own s [_, _] _ "note-ext.text" _ hobject (by decide) ?_ ?_
      · simp [hroleplayers]
      · simp [hsubtype]
    refine ⟨m, s, c, _, hm, hs, hc, rfl, by simp [hskipped], hrest, ?_⟩
    rintro ⟨found, hfound, -, -, ⟨ρ, -, hrename⟩, -⟩
    obtain rfl := Except.ok.inj (hc'.symm.trans hfound)
    rw [hrename, OrderedStatements.inserted_rename, hinserted'] at hinserted
    simp at hinserted

end ThreatGraph
