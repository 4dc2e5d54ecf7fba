import Mathlib.Logic.Function.Basic
import ThreatGraph.Proofs.Renaming
import ThreatGraph.Proofs.Scope

/-!
# Gaps in the supply

Where a computation is left out, everything after it draws earlier variables than it would have
drawn otherwise. `openGap` takes the one to the other: it moves the variables from a number on and
keeps all before it, so what was converted before the gap is not renamed
(`Attachments.rename_eq_self`, `MainThing.rename_eq_self`). It is injective on all texts, and a
gap of no places renames nothing.
-/

namespace ThreatGraph

open Variables (nameOf between)

/-! ## Opening a gap -/

/-- From `start` on, variables move by `width` places. Whatever else a text is, it stays. -/
noncomputable def openGap (start width : Nat) : String → String :=
  Function.extend nameOf (fun n => nameOf (if n < start then n else n + width)) id

section OpenGap

variable (start width : Nat)

/-- Variables from the gap on are moved by its width. -/
theorem openGap_nameOf (n : Nat) :
    openGap start width (nameOf n) = nameOf (if n < start then n else n + width) :=
  Variables.nameOf_injective.extend_apply ..

theorem openGap_other {x : String} (hx : ¬ ∃ n, nameOf n = x) : openGap start width x = x :=
  Function.extend_apply' _ _ _ hx

/-- No two variables are moved to the same place. -/
theorem openGap_injective : Function.Injective (openGap start width) := by
  intro x y hxy
  by_cases hx : ∃ n, nameOf n = x
  · obtain ⟨n, rfl⟩ := hx
    by_cases hy : ∃ k, nameOf k = y
    · obtain ⟨k, rfl⟩ := hy
      rw [openGap_nameOf, openGap_nameOf] at hxy
      have hnumbers := Variables.nameOf_injective hxy
      congr 1
      split at hnumbers <;> split at hnumbers <;> omega
    -- a text that is no variable stays one, so no variable has moved onto it
    · rw [openGap_nameOf, openGap_other _ _ hy] at hxy
      exact absurd ⟨_, hxy⟩ hy
  · by_cases hy : ∃ k, nameOf k = y
    · obtain ⟨k, rfl⟩ := hy
      rw [openGap_nameOf, openGap_other _ _ hx] at hxy
      exact absurd ⟨_, hxy.symm⟩ hx
    · rwa [openGap_other _ _ hx, openGap_other _ _ hy] at hxy

theorem openGap_zero : openGap start 0 = id := by
  funext x
  by_cases hx : ∃ n, nameOf n = x
  · obtain ⟨n, rfl⟩ := hx
    rw [openGap_nameOf]
    split <;> rfl
  · rw [openGap_other _ _ hx, id]

/-- The first variable is before any gap but one that begins with it. -/
theorem openGap_first (hstart : 0 < start) : openGap start width (nameOf 0) = nameOf 0 := by
  rw [openGap_nameOf, if_pos hstart]

/-- What was handed out before the gap keeps its names. -/
theorem openGap_of_mem_between {v w : Variables} {x : String}
    (hx : x ∈ between v w) (h : w.issued ≤ start) : openGap start width x = x := by
  obtain ⟨n, -, hn, rfl⟩ := Variables.mem_between.mp hx
  rw [openGap_nameOf, if_pos (Nat.lt_of_lt_of_le hn h)]

end OpenGap

namespace Shift

/-- The shift that opens a gap. -/
noncomputable def gap (start width : Nat) : Shift where
  rename := openGap start width
  start := start
  width := width
  rename_nameOf n hn := by rw [openGap_nameOf, if_neg (Nat.not_lt.mpr hn)]
  isEmpty_rename x := by
    have hempty (n : Nat) : (nameOf n).isEmpty = false := by simp [nameOf]
    by_cases hx : ∃ n, nameOf n = x
    · obtain ⟨n, rfl⟩ := hx
      rw [openGap_nameOf, hempty, hempty]
    · rw [openGap_other _ _ hx]

end Shift

/-- What is done on a later supply is what would be done first, when one variable has been handed
out, but for the gap between the two. -/
theorem Naming.Follows.outcome_gap {ε α α' : Type} {f : α → α'} {x : Naming ε α} {y : Naming ε α'}
    {v : Variables} (hv : 0 < v.issued) (h : Follows (Shift.gap 1 (v.issued - 1)) f x y) :
    y.outcome v =
      ((x.outcome ⟨1⟩).1.map f, (Shift.gap 1 (v.issued - 1)).move (x.outcome ⟨1⟩).2) := by
  have hmove : (Shift.gap 1 (v.issued - 1)).move ⟨1⟩ = v := by
    change (⟨1 + (v.issued - 1)⟩ : Variables) = v
    rw [Nat.add_sub_cancel' hv]
  obtain ⟨-, hlater⟩ := h ⟨1⟩ (Nat.le_refl 1)
  rwa [hmove] at hlater

/-! ## What a renaming does not change -/

section Fixed

variable {ρ : String → String}

/-- A renaming that keeps all texts keeps the multimap. -/
theorem Multimap.mapTexts_eq_self {m : Multimap} (h : ∀ pair ∈ m.pairs, ρ pair.2 = pair.2) :
    m.mapTexts ρ = m := by
  induction m with
  | nil => rfl
  | cons entry rest ih =>
    obtain ⟨name, texts⟩ := entry
    simp only [pairs, List.flatMap_cons, List.forall_mem_append, List.forall_mem_map] at h
    obtain ⟨htexts, hrest⟩ := h
    have hmap : texts.map ρ = texts := by
      rw [List.map_congr_left htexts, List.map_id']
    exact congrArg₂ _ (congrArg (Prod.mk name) hmap) (ih hrest)

theorem Entity.rename_eq_self {e : Entity} (h : ρ e.var = e.var) : e.rename ρ = e := by
  rw [rename]
  rw [h]

/-- A relation stays if its variable and its players do. -/
theorem Relation.rename_eq_self {r : Relation} (hvar : ρ r.var = r.var)
    (hplayers : ∀ x ∈ r.allPlayers, ρ x = x) : r.rename ρ = r := by
  rw [rename]
  rw [hvar, Multimap.mapTexts_eq_self fun pair hpair => hplayers _ (List.mem_map_of_mem hpair)]

theorem Reference.rename_eq_self {r : Reference} (h : ∀ x, r.var = some x → ρ x = x) :
    r.rename ρ = r := by
  obtain ⟨stixId, var, typeName⟩ := r
  cases var with
  | none => rfl
  | some x => exact congrArg (Reference.mk stixId · typeName) (congrArg some (h x rfl))

/-- Helpers and links keep their names if their variables and their owner's do, as all players
are among these. -/
theorem Attachments.rename_eq_self {a : Attachments} {r : Reference}
    (hvars : ∀ x ∈ a.vars, ρ x = x) (hreach : a.InReach r)
    (howner : ∀ x, r.var = some x → ρ x = x) : a.rename ρ = a := by
  simp only [vars, List.forall_mem_append, List.mem_flatMap, forall_exists_index, and_imp]
    at hvars
  obtain ⟨hhelpers, hlinks⟩ := hvars
  obtain ⟨helpers, links⟩ := a
  -- players have the variable of the owner, of a helper or of an end, so they stay as well
  have hhelper (h : Helper) (hh : h ∈ helpers) : h.rename ρ = h := by
    have hentity : h.entity.rename ρ = h.entity :=
      Entity.rename_eq_self (hhelpers _ h hh (by simp))
    have hrelation : h.relation.rename ρ = h.relation := by
      refine Relation.rename_eq_self (hhelpers _ h hh (by simp)) fun x hx => ?_
      rcases hreach.helpers h hh x hx with hx | ⟨other, hother, rfl⟩
      · exact howner x hx
      · exact hhelpers _ other hother (by simp)
    rw [Helper.rename, hentity, hrelation]
  have hlink (l : Link) (hl : l ∈ links) : l.rename ρ = l := by
    have howner : l.owner.rename ρ = l.owner := Entity.rename_eq_self (hlinks _ l hl (by simp))
    have htarget : l.target.rename ρ = l.target :=
      Entity.rename_eq_self (hlinks _ l hl (by simp))
    have hrelation : l.relation.rename ρ = l.relation := by
      refine Relation.rename_eq_self (hlinks _ l hl (by simp)) fun x hx => ?_
      rcases hreach.links l hl x hx with rfl | rfl
      · exact hlinks _ l hl (by simp)
      · exact hlinks _ l hl (by simp)
    rw [Link.rename, howner, htarget, hrelation]
  rw [rename, List.map_congr_left hhelper, List.map_congr_left hlink, List.map_id', List.map_id']

/-- The main thing keeps its names if its variable and those of its players do. -/
theorem MainThing.rename_eq_self {main : MainThing} (hvars : ∀ x ∈ main.vars, ρ x = x)
    (hscoped : main.Scoped) : main.rename ρ = main := by
  cases main with
  | entity e =>
    rw [rename, Entity.rename_eq_self (hvars _ (by simp [vars]))]
  | relation r players =>
    have hplayer (e : Entity) (he : e ∈ players) : e.rename ρ = e :=
      Entity.rename_eq_self (hvars _ (List.mem_append_left _ (List.mem_map_of_mem he)))
    have hrelation : r.rename ρ = r :=
      Relation.rename_eq_self (hvars _ (by simp [vars])) fun x hx =>
        hvars x (List.mem_append_left _ (hscoped x hx))
    rw [rename, hrelation, List.map_congr_left hplayer, List.map_id']

theorem Thing.rename_id : rename id = id := by
  funext thing
  cases thing with
  | entity e => rfl
  | relation r => exact congrArg relation (Relation.rename_eq_self rfl fun _ _ => rfl)

theorem OrderedStatements.rename_id (s : OrderedStatements) : s.rename id = s := by
  have hstatement : Statement.rename id = id := by
    funext s
    simp [Statement.rename, Thing.rename_id]
  simp [rename, hstatement]

end Fixed

end ThreatGraph
