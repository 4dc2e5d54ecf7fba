import Mathlib.Algebra.Order.Ring.Nat
import Mathlib.Data.List.Basic
import Mathlib.Tactic.Ring
import ThreatGraph.Timestamp

/-!
# Numbers in a fixed width

Digits denote a number, and zeros in front do not count. So among the texts of one width a number
has one only, which is the one that `Timestamp.padded` writes (`Timestamp.padded_value`).

A number is the value of its digits (`Numeral.value_toDigits`), and two texts of one width that have
the same value are the same, digit by digit (`Numeral.value_injective`).
-/

namespace ThreatGraph

/-- All characters are digits. -/
def AllDigits (cs : List Char) : Prop := ∀ c ∈ cs, c.isDigit = true

namespace AllDigits

variable {cs ds : List Char} {c : Char}

theorem append (h : AllDigits cs) (h' : AllDigits ds) : AllDigits (cs ++ ds) :=
  fun c hc => (List.mem_append.mp hc).elim (h c) (h' c)

theorem take (h : AllDigits cs) (n : Nat) : AllDigits (cs.take n) :=
  fun c hc => h c (List.mem_of_mem_take hc)

theorem zeros (n : Nat) : AllDigits (List.replicate n '0') := by
  intro c hc
  obtain rfl := List.eq_of_mem_replicate hc
  decide

theorem toDigits (n : Nat) : AllDigits (Nat.toDigits 10 n) :=
  fun _ hc => Nat.isDigit_of_mem_toDigits (by decide) (by decide) hc

/-- Whether all are digits can be asked character by character. -/
theorem all (h : AllDigits cs) : cs.all Char.isDigit = true := List.all_eq_true.mpr h

/-- No mark stands among digits. -/
theorem not_mem (h : AllDigits cs) {mark : Char} (hmark : mark.isDigit = false) : mark ∉ cs :=
  fun hmem => absurd (h mark hmem) (by simp [hmark])

end AllDigits

namespace Numeral

/-- The value of digits that are joined is that of the first, moved to the left, and that of the
last. -/
theorem value_append (cs ds : List Char) :
    value (cs ++ ds) = 10 ^ ds.length * value cs + value ds := by
  rw [value, value, value, Nat.ofDigitChars_append, Nat.ofDigitChars_eq_ofDigitChars_zero]

/-- The first digit counts as often as its place says. -/
theorem value_cons (c : Char) (cs : List Char) :
    value (c :: cs) = 10 ^ cs.length * (c.toNat - '0'.toNat) + value cs := by
  rw [value, value, Nat.ofDigitChars_cons, Nat.ofDigitChars_eq_ofDigitChars_zero, Nat.mul_zero,
    Nat.zero_add]

theorem value_zeros (n : Nat) : value (List.replicate n '0') = 0 := by
  rw [value, Nat.ofDigitChars_replicate_zero, Nat.mul_zero]

theorem value_toDigits (n : Nat) : value (Nat.toDigits 10 n) = n := Nat.ofDigitChars_ten_toDigits

/-- The code points of the digits. -/
theorem toNat_of_isDigit {c : Char} (h : c.isDigit = true) : 48 ≤ c.toNat ∧ c.toNat ≤ 57 := by
  simp only [Char.isDigit, Bool.and_eq_true, decide_eq_true_eq] at h
  exact ⟨UInt32.le_iff_toNat_le.mp h.1, UInt32.le_iff_toNat_le.mp h.2⟩

theorem value_lt {cs : List Char} (h : AllDigits cs) : value cs < 10 ^ cs.length := by
  induction cs with
  | nil => decide
  | cons c rest ih =>
    have hrest := ih fun d hd => h d (List.mem_cons_of_mem _ hd)
    have hc := toNat_of_isDigit (h c List.mem_cons_self)
    have hdigit : c.toNat - '0'.toNat ≤ 9 := by
      have hzero : '0'.toNat = 48 := rfl
      omega
    calc value (c :: rest)
        = 10 ^ rest.length * (c.toNat - '0'.toNat) + value rest := value_cons c rest
      _ < 10 ^ rest.length * 9 + 10 ^ rest.length :=
          Nat.add_lt_add_of_le_of_lt (Nat.mul_le_mul_left _ hdigit) hrest
      _ = 10 ^ (c :: rest).length := by rw [List.length_cons, pow_succ]; ring

/-- The digits in front are what is left when those behind are divided away. -/
theorem value_append_div {ds : List Char} (h : AllDigits ds) (cs : List Char) :
    value (cs ++ ds) / 10 ^ ds.length = value cs := by
  have hpos : 0 < 10 ^ ds.length := Nat.pow_pos (by decide)
  rw [value_append, Nat.mul_add_div hpos, Nat.div_eq_of_lt (value_lt h), Nat.add_zero]

/-- In one width, different digits denote different numbers. -/
theorem value_injective {cs ds : List Char} (hcs : AllDigits cs) (hds : AllDigits ds)
    (hlength : cs.length = ds.length) (h : value cs = value ds) : cs = ds := by
  induction cs generalizing ds with
  | nil => exact (List.eq_nil_of_length_eq_zero hlength.symm).symm
  | cons c rest ih =>
    cases ds with
    | nil => cases hlength
    | cons d more =>
      have hlength : rest.length = more.length := Nat.succ.inj hlength
      have hrest : AllDigits rest := fun x hx => hcs x (List.mem_cons_of_mem _ hx)
      have hmore : AllDigits more := fun x hx => hds x (List.mem_cons_of_mem _ hx)
      have hpos : 0 < 10 ^ more.length := Nat.pow_pos (by decide)
      -- the first digit is the quotient and the others are the remainder
      have hfirst : c.toNat - '0'.toNat = d.toNat - '0'.toNat := by
        have hdiv := congrArg (· / 10 ^ more.length) h
        simp only [value_cons] at hdiv
        rw [hlength, Nat.mul_add_div hpos, Nat.mul_add_div hpos,
          Nat.div_eq_of_lt (value_lt hmore), Nat.div_eq_of_lt (hlength ▸ value_lt hrest)] at hdiv
        exact hdiv
      have hothers : value rest = value more := by
        rw [value_cons, value_cons, hlength, hfirst] at h
        exact Nat.add_left_cancel h
      have hc := toNat_of_isDigit (hcs c List.mem_cons_self)
      have hd := toNat_of_isDigit (hds d List.mem_cons_self)
      have hzero : '0'.toNat = 48 := rfl
      have hchar : c = d := Char.toNat_inj.mp (by omega)
      rw [hchar, ih hrest hmore hlength hothers]

end Numeral

namespace Timestamp

variable {width n : Nat}

/-- A number that is filled up is written with digits. -/
theorem allDigits_padded (width n : Nat) : AllDigits (padded width n) :=
  (AllDigits.zeros _).append (.toDigits n)

theorem value_padded (width n : Nat) : Numeral.value (padded width n) = n := by
  rw [padded, Numeral.value_append, Numeral.value_zeros, Numeral.value_toDigits, Nat.mul_zero,
    Nat.zero_add]

/-- A number that fits is written in the width that is asked for. -/
theorem length_padded (hwidth : 0 < width) (h : n < 10 ^ width) :
    (padded width n).length = width := by
  have hle := (Nat.length_toDigits_le_iff (by decide) hwidth).mpr h
  rw [padded, List.length_append, List.length_replicate]
  exact Nat.sub_add_cancel hle

/-- Digits are written again as they stood, zeros in front included. -/
theorem padded_value {digits : List Char} (hempty : digits ≠ []) (h : AllDigits digits) :
    padded digits.length (Numeral.value digits) = digits := by
  have hwidth := List.length_pos_iff.mpr hempty
  exact Numeral.value_injective (allDigits_padded _ _) h
    (length_padded hwidth (Numeral.value_lt h)) (value_padded _ _)

end Timestamp

end ThreatGraph
