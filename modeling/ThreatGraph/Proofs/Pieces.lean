import Mathlib.Data.List.Basic
import Mathlib.Data.List.TakeWhile
import ThreatGraph.Text.Cut

/-!
# Pieces between marks

A text is cut at every place where a mark stands. No mark is lost, as there is one piece more than
there are marks (`Text.length_pieces`), and cutting goes on behind a mark as if nothing stood before
it (`Text.pieces_append`).

All of this is by induction over the text, with a case for the mark and one for any other character.
-/

namespace ThreatGraph.Text

variable {mark : Char} {cs : List Char}

/-- The first piece ends where the mark stands first. -/
theorem exists_pieces (mark : Char) (cs : List Char) :
    ∃ others, pieces mark cs = (cs.takeWhile fun c => c != mark) :: others := by
  induction cs with
  | nil => exact ⟨[], rfl⟩
  | cons c rest ih =>
    obtain ⟨others, hothers⟩ := ih
    rw [pieces, hothers]
    by_cases hc : c = mark
    · exact ⟨pieces mark rest, by simp [hc, hothers]⟩
    · exact ⟨others, by simp [hc]⟩

/-- The pieces on both sides of a mark are those of the parts. -/
theorem pieces_append (mark : Char) (before rest : List Char) :
    pieces mark (before ++ mark :: rest) = pieces mark before ++ pieces mark rest := by
  induction before with
  | nil => simp [pieces]
  | cons c more ih =>
    rw [List.cons_append, pieces, pieces, ih]
    split
    · rfl
    · obtain ⟨others, hothers⟩ := exists_pieces mark more
      rw [hothers]
      rfl

/-- There is one piece more than there are marks. -/
theorem length_pieces (mark : Char) (cs : List Char) :
    (pieces mark cs).length = cs.count mark + 1 := by
  induction cs with
  | nil => rfl
  | cons c rest ih =>
    rw [pieces]
    split
    · next hc => rw [List.length_cons, ih, hc, List.count_cons_self]
    · next hc =>
      rw [List.count_cons_of_ne hc, ← ih]
      obtain ⟨others, hothers⟩ := exists_pieces mark rest
      rw [hothers]
      rfl

/-- A text without a mark is one piece. -/
theorem pieces_of_not_mem (h : mark ∉ cs) : pieces mark cs = [cs] := by
  obtain ⟨others, hothers⟩ := exists_pieces mark cs
  have hlength := length_pieces mark cs
  rw [hothers, List.count_eq_zero_of_not_mem h, List.length_cons, Nat.add_right_cancel_iff,
    List.length_eq_zero_iff] at hlength
  have hall : ∀ c ∈ cs, (c != mark) = true := by
    intro c hc
    rw [bne_iff_ne]
    rintro rfl
    exact h hc
  rw [hothers, hlength, List.takeWhile_eq_self_iff.mpr hall]

/-- Where marks stand, there is a first one. -/
theorem exists_first (h : 0 < cs.count mark) :
    ∃ before rest, cs = before ++ mark :: rest ∧ mark ∉ before ∧
      cs.count mark = rest.count mark + 1 := by
  obtain ⟨before, rest, rfl, hbefore⟩ :=
    List.eq_append_cons_of_mem (List.count_pos_iff.mp h)
  refine ⟨before, rest, rfl, hbefore, ?_⟩
  rw [List.count_append, List.count_eq_zero_of_not_mem hbefore, List.count_cons_self, Nat.zero_add]

end ThreatGraph.Text
