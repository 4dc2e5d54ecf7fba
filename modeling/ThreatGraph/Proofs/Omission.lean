import ThreatGraph.Proofs.Gap

/-!
# Leaving out one of many properties

A property that a lenient conversion skips has left nothing behind but its report: without it the
others are converted in the same way (`propertiesBy_without`). Only the variables that it drew
before it failed are missing from the supply, so what comes before it stays as it is, and what
comes after it stays as it is but for a gap.

Whether a property is skipped, and why, does not hang on what was converted before it (`Skips`).
Skipped properties are reported by name, and a name can be that of several properties. That all of
them were skipped shows from the name being reported as often as there are properties of it
(`propertiesBy_skips`).
-/

namespace ThreatGraph

open Variables (nameOf between)
open Naming

/-- The object of the reference has the first variable, if any. -/
def Reference.First (r : Reference) : Prop := ∀ x, r.var = some x → x = nameOf 0

/-- What refers to the first variable is not moved by a gap behind it. -/
theorem Reference.First.openGap {r : Reference} (h : r.First) {start : Nat} (hstart : 0 < start)
    (width : Nat) (x : String) (hx : r.var = some x) : openGap start width x = x := by
  rw [h x hx]
  exact openGap_first start width hstart

/-- A reference by the first variable refers to it. -/
theorem Reference.known_first (stixId typeName : Option String) :
    (known stixId (some (nameOf 0)) typeName).First :=
  fun _ hx => (Option.some.inj (known_var_eq_some hx)).symm

namespace Collected

theorem nil_append (c : Collected) : ({} : Collected) ++ c = c := rfl

theorem append_assoc (a b c : Collected) : a ++ b ++ c = a ++ (b ++ c) := by
  change (a.append b).append c = a.append (b.append c)
  simp only [append, List.append_assoc, Collected.mk.injEq, Gathered.mk.injEq, true_and, and_true]
  exact congrArg₂ Attachments.mk (List.append_assoc ..) (List.append_assoc ..)

end Collected

/-! ## What is reported -/

namespace Subject

variable {s : Subject} {self : Reference} {v w : Variables} {c : Collected}
  {entry : String → Except MappingDefect (Option AttributeInfo)} {label : String → String}

/-- A property is reported once, and then it is nothing but reported, or it is not reported. -/
theorem property_reported {label : String} {info : Option AttributeInfo} {raw : Json}
    (h : (s.property self label info raw).outcome v = (.ok c, w)) :
    c.skipped = [] ∨ ∃ reason, c = { skipped := [⟨label, reason⟩] } ∧
      v.issued ≤ w.issued ∧ (reason = .unmapped → w = v) := by
  have hle : v.issued ≤ w.issued := (property_drawn h).le
  rcases property_ok h with ⟨-, rfl, rfl⟩ | ⟨i, converted, -, -, rfl⟩ | ⟨i, defect, -, -, -, rfl⟩
  · exact .inr ⟨.unmapped, rfl, hle, fun _ => rfl⟩
  · exact .inl rfl
  · exact .inr ⟨.failed defect, rfl, hle, fun hreason => nomatch hreason⟩

/-- Properties are reported in order, each at most once. -/
theorem propertiesBy_reported : ∀ (members : Members) {v w : Variables} {c : Collected},
    (s.propertiesBy self entry label members).outcome v = (.ok c, w) →
      (c.skipped.map Skipped.name).Sublist ((Table.names members).map label)
  | [], v, w, c, h => by
    obtain ⟨rfl, rfl⟩ := pure_eq_ok.mp h
    exact .slnil
  | (name, raw) :: rest, v, w, c, h => by
    obtain ⟨info, first, others, u, -, hfirst, hothers, rfl⟩ := propertiesBy_cons_ok h
    have hrest := propertiesBy_reported rest hothers
    change ((first.skipped ++ others.skipped).map Skipped.name).Sublist _
    rcases property_reported hfirst with hnone | ⟨reason, rfl, -, -⟩
    · rw [hnone]
      exact hrest.cons _
    · exact hrest.cons_cons _

/-- What comes first is converted first. -/
theorem propertiesBy_append_ok : ∀ (first rest : Members) {v w : Variables} {c : Collected},
    (s.propertiesBy self entry label (first ++ rest)).outcome v = (.ok c, w) ↔
      ∃ a b u, (s.propertiesBy self entry label first).outcome v = (.ok a, u) ∧
        (s.propertiesBy self entry label rest).outcome u = (.ok b, w) ∧ c = a ++ b
  | [], rest, v, w, c => by
    constructor
    · exact fun h => ⟨{}, c, v, rfl, h, c.nil_append.symm⟩
    · rintro ⟨a, b, u, ha, hb, rfl⟩
      obtain ⟨rfl, rfl⟩ := pure_eq_ok.mp ha
      exact hb
  | member :: first, rest, v, w, c => by
    simp only [List.cons_append, propertiesBy, bind_eq_ok, pure_eq_ok,
      propertiesBy_append_ok first rest]
    constructor
    · rintro ⟨info, u, hinfo, one, u', hone, others, _, ⟨a, b, t, ha, hb, rfl⟩, rfl, rfl⟩
      exact ⟨one ++ a, b, t, ⟨info, u, hinfo, one, u', hone, a, t, ha, rfl, rfl⟩, hb,
        (Collected.append_assoc ..).symm⟩
    · rintro ⟨_, b, t, ⟨info, u, hinfo, one, u', hone, a, _, ha, rfl, rfl⟩, hb, rfl⟩
      exact ⟨info, u, hinfo, one, u', hone, a ++ b, w, ⟨a, b, _, ha, hb, rfl⟩,
        (Collected.append_assoc ..).symm, rfl⟩

end Subject

/-! ## Properties that are skipped -/

/-- A property as it is converted. -/
structure Property where
  /-- the name under which it is reported -/
  label : String
  /-- what the mapping says about it -/
  answer : Except MappingDefect (Option AttributeInfo)
  /-- its value -/
  raw : Json

namespace Subject

variable {s : Subject} {self : Reference} {v w : Variables} {c : Collected}
  {entry : String → Except MappingDefect (Option AttributeInfo)} {label : String → String}

/-- Whatever is converted before it, a property is converted as if it were the first, when only the
object itself has a variable, but for what variables are called. -/
theorem property_outcome (s : Subject) (hself : self.First) (hv : 0 < v.issued) (label : String)
    (info : Option AttributeInfo) (raw : Json) :
    (s.property self label info raw).outcome v =
      (((s.property self label info raw).outcome ⟨1⟩).1.map
          (Collected.rename (openGap 1 (v.issued - 1))),
        (Shift.gap 1 (v.issued - 1)).move ((s.property self label info raw).outcome ⟨1⟩).2) := by
  have hfollows := s.property_follows (Shift.gap 1 (v.issued - 1)) self label info raw
  have hfixed : self.rename (Shift.gap 1 (v.issued - 1)).rename = self :=
    Reference.rename_eq_self (hself.openGap Nat.one_pos _)
  rw [hfixed] at hfollows
  exact hfollows.outcome_gap hv

/-- The property is skipped for the reason if it is the first that is converted, when only the
object itself has a variable. -/
def Skips (s : Subject) (self : Reference) (p : Property) (reason : SkipReason) : Prop :=
  ∃ info w, p.answer = .ok info ∧ (s.property self p.label info p.raw).outcome ⟨1⟩ =
    (.ok { skipped := [⟨p.label, reason⟩] }, w)

/-- Whatever is converted before it, a property is skipped for the same reason. -/
theorem skips_iff {p : Property} {reason : SkipReason} (hself : self.First) (hv : 0 < v.issued) :
    s.Skips self p reason ↔
      ∃ info w, p.answer = .ok info ∧ (s.property self p.label info p.raw).outcome v =
        (.ok { skipped := [⟨p.label, reason⟩] }, w) := by
  constructor
  · rintro ⟨info, w, hinfo, hfirst⟩
    have hlater := s.property_outcome hself hv p.label info p.raw
    rw [hfirst] at hlater
    exact ⟨info, _, hinfo, hlater⟩
  · rintro ⟨info, w, hinfo, hlater⟩
    rw [s.property_outcome hself hv] at hlater
    rcases hfirst : (s.property self p.label info p.raw).outcome ⟨1⟩ with ⟨defect | a, u⟩ <;>
      rw [hfirst] at hlater
    · cases (Prod.mk.inj hlater).1
    -- renaming does not touch reports, so `p` was reported there too
    · have hskipped : a.skipped = [⟨p.label, reason⟩] :=
        congrArg Collected.skipped (Except.ok.inj (Prod.mk.inj hlater).1)
      rcases property_reported hfirst with hnone | ⟨reason', rfl, -, -⟩
      · rw [hnone] at hskipped
        cases hskipped
      · cases hskipped
        exact ⟨info, u, hinfo, hfirst⟩

/-- If the properties called `label p` are all reported, then `p` is skipped. -/
theorem propertiesBy_skips {before after : Members} {p : String} {raw : Json}
    (hself : self.First) (hv : 0 < v.issued)
    (h : (s.propertiesBy self entry label (before ++ (p, raw) :: after)).outcome v = (.ok c, w))
    (hreported : ((Table.names (before ++ (p, raw) :: after)).map label).count (label p) ≤
      (c.skipped.map Skipped.name).count (label p)) :
    ∃ reason, s.Skips self ⟨label p, entry p, raw⟩ reason := by
  obtain ⟨a, rest, u, ha, hrest, rfl⟩ := (propertiesBy_append_ok before _).mp h
  obtain ⟨info, one, b, t, hinfo, hone, hb, rfl⟩ := propertiesBy_cons_ok hrest
  rcases property_reported hone with hnone | ⟨reason, rfl, -, -⟩
  -- there are fewer reports of the name than properties, as `p` itself is not reported
  · have hbefore := (propertiesBy_reported before ha).count_le (label p)
    have hafter := (propertiesBy_reported after hb).count_le (label p)
    change _ ≤ ((a.skipped ++ (one.skipped ++ b.skipped)).map Skipped.name).count (label p)
      at hreported
    simp only [hnone, List.nil_append, List.map_append, List.count_append, Table.names,
      List.map_cons, List.count_cons_self] at hreported hbefore hafter
    omega
  · have hu := Nat.lt_of_lt_of_le hv (propertiesBy_drawn before ha).le
    exact ⟨reason, (skips_iff hself hu).mpr ⟨info, t, hinfo, hone⟩⟩

end Subject

/-! ## Without one property -/

/-- `c` is `c'` with one property more, which was skipped: what was converted after it is called as
if there were a gap. -/
structure Collected.Without (start width : Nat) (entry : Skipped) (c c' : Collected) : Prop where
  attributes : c.attributes = c'.attributes
  attachments : c.attachments = c'.attachments.rename (openGap start width)
  skipped : ∃ before after, c.skipped = before ++ entry :: after ∧ c'.skipped = before ++ after
  unmapped : entry.reason = .unmapped → width = 0

namespace Collected.Without

variable {start width : Nat} {entry : Skipped} {a b c c' : Collected}

/-- The skipped property alone leaves nothing. -/
theorem single (h : entry.reason = .unmapped → width = 0) :
    Collected.Without start width entry { skipped := [entry] } {} where
  attributes := rfl
  attachments := rfl
  skipped := ⟨[], [], rfl, rfl⟩
  unmapped := h

/-- What comes before the gap is not renamed. -/
theorem append_left (ha : a.rename (openGap start width) = a) (h : c.Without start width entry c') :
    (a ++ c).Without start width entry (a ++ c') where
  attributes := congrArg (a.attributes ++ ·) h.attributes
  attachments := by
    change a.attachments ++ c.attachments = (a.attachments ++ c'.attachments).rename _
    rw [Attachments.rename_append, ← h.attachments]
    exact congrArg (· ++ _) (congrArg (·.attachments) ha).symm
  skipped := by
    obtain ⟨before, after, hskipped, hskipped'⟩ := h.skipped
    refine ⟨a.skipped ++ before, after, ?_, ?_⟩
    · rw [List.append_assoc, ← hskipped]
      rfl
    · rw [List.append_assoc, ← hskipped']
      rfl
  unmapped := h.unmapped

/-- What comes after the gap is renamed. -/
theorem append_right (h : c.Without start width entry c') :
    (c ++ b.rename (openGap start width)).Without start width entry (c' ++ b) where
  attributes := congrArg (· ++ b.attributes) h.attributes
  attachments := by
    change c.attachments ++ b.attachments.rename _ = (c'.attachments ++ b.attachments).rename _
    rw [Attachments.rename_append, ← h.attachments]
  skipped := by
    obtain ⟨before, after, hskipped, hskipped'⟩ := h.skipped
    refine ⟨before, after ++ b.skipped, ?_, ?_⟩
    · rw [← List.cons_append, ← List.append_assoc, ← hskipped]
      rfl
    · rw [← List.append_assoc, ← hskipped']
      rfl
  unmapped := h.unmapped

end Collected.Without

namespace Subject

variable {s : Subject} {self : Reference} {v w : Variables} {c : Collected}
  {entry : String → Except MappingDefect (Option AttributeInfo)} {label : String → String}

/-- Opening a gap behind what properties were converted to does not change it. -/
theorem rename_of_drawn {start width : Nat} (h : c.Drawn self v w) (hw : w.issued ≤ start)
    (hself : ∀ x, self.var = some x → openGap start width x = x) :
    c.rename (openGap start width) = c := by
  have hattachments : c.attachments.rename (openGap start width) = c.attachments := by
    refine Attachments.rename_eq_self (fun x hx => ?_) h.inReach hself
    exact openGap_of_mem_between start width (h.vars.subset hx) hw
  rw [Collected.rename]
  rw [hattachments]

/-- Properties after a gap are converted as they are without it. -/
theorem propertiesBy_after_gap {start width : Nat} {members : Members}
    (h : (s.propertiesBy self entry label members).outcome ⟨v.issued + width⟩ = (.ok c, w))
    (hstart : start ≤ v.issued)
    (hself : ∀ x, self.var = some x → openGap start width x = x) :
    ∃ c' w', (s.propertiesBy self entry label members).outcome v = (.ok c', w') ∧
      v.issued ≤ w'.issued ∧ c'.rename (openGap start width) = c ∧ w = ⟨w'.issued + width⟩ := by
  have hfollows := s.propertiesBy_follows (Shift.gap start width) self entry label members
  have hfixed : self.rename (Shift.gap start width).rename = self :=
    Reference.rename_eq_self hself
  rw [hfixed] at hfollows
  exact hfollows.ok_of_move hstart h

/-- **Properties without one of them.** If `p` is skipped, the others are converted in the same way
without it, but for the gap that it leaves. -/
theorem propertiesBy_without {before after : Members} {p : String} {raw : Json}
    {reason : SkipReason} (hself : self.First) (hv : 0 < v.issued)
    (hskips : s.Skips self ⟨label p, entry p, raw⟩ reason)
    (h : (s.propertiesBy self entry label (before ++ (p, raw) :: after)).outcome v = (.ok c, w)) :
    ∃ start width c' w', c.Without start width ⟨label p, reason⟩ c' ∧
      (s.propertiesBy self entry label (before ++ after)).outcome v = (.ok c', w') ∧
      v.issued ≤ start ∧ start ≤ w'.issued ∧ w = ⟨w'.issued + width⟩ := by
  obtain ⟨a, rest, u, ha, hrest, rfl⟩ := (propertiesBy_append_ok before _).mp h
  obtain ⟨info, one, b, t, hinfo, hone, hb, rfl⟩ := propertiesBy_cons_ok hrest
  have hdrawn := propertiesBy_drawn before ha
  have hu := Nat.lt_of_lt_of_le hv hdrawn.le
  obtain ⟨_, _, hinfo', hskipped⟩ := (skips_iff hself hu).mp hskips
  obtain rfl := Except.ok.inj (hinfo.symm.trans hinfo')
  obtain ⟨rfl, rfl⟩ : one = { skipped := [⟨label p, reason⟩] } ∧ t = _ := by
    rw [hone] at hskipped
    exact ⟨Except.ok.inj (Prod.mk.inj hskipped).1, (Prod.mk.inj hskipped).2⟩
  rcases property_reported hone with hnone | ⟨reason', hone', hle, hunmapped⟩
  · cases hnone
  cases hone'
  -- the gap has as many places as `p` has drawn variables before it failed
  have hfixed := hself.openGap hu (t.issued - u.issued)
  have hmove : t = ⟨u.issued + (t.issued - u.issued)⟩ := by
    rw [Nat.add_sub_cancel' hle]
  rw [hmove] at hb
  obtain ⟨b', w', hb', hle', rfl, hw⟩ := propertiesBy_after_gap hb (Nat.le_refl _) hfixed
  refine ⟨u.issued, t.issued - u.issued, a ++ b', w', ?_, ?_, hdrawn.le, hle', hw⟩
  · have hsingle : Collected.Without u.issued (t.issued - u.issued) ⟨label p, reason⟩
        { skipped := [⟨label p, reason⟩] } {} := by
      refine .single fun hreason => ?_
      rw [hunmapped hreason, Nat.sub_self]
    exact hsingle.append_right.append_left (rename_of_drawn hdrawn (Nat.le_refl _) hfixed)
  · exact (propertiesBy_append_ok before after).mpr ⟨a, b', u, ha, hb', rfl⟩

end Subject

end ThreatGraph
