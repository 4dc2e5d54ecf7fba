import Mathlib.Algebra.Field.Rat
import Mathlib.Data.List.TakeWhile
import Mathlib.Data.Nat.Cast.Field
import ThreatGraph.Json.Reader
import ThreatGraph.Proofs.Digits
import ThreatGraph.Proofs.Success

/-!
# Longs are exact

A long is read from an integer, from a number with a point or an exponent, or from a numeral in a
text. Which long that is, if any, is said by `Json.StatesLong` in terms of what the value is worth:
nothing is rounded, cut off at the bounds or wrapped around. The literal of a long is its canonical
decimal, and that is the long again, as a text and as a JSON integer (`Literal.long_exact`).

A float is worth the rational of its fields (`Binary64.exact`), and a numeral denotes the integer of
its digits (`Numeral.Denotes`). Each way to read a long is an iff with one of these
(`readLong_eq_ok_iff`). For the way back, decimals without a leading zero are the ones that are
written (`canonical_iff`).
-/

namespace ThreatGraph

/-! ## What a number is worth -/

namespace Binary64

variable {x : Binary64} {n : ℤ}

/-- The number without rounding. -/
def exact (x : Binary64) : ℚ :=
  let size : ℚ := x.mantissa * 2 ^ x.exponent
  if x.negative then -size else size

/-- The number without its sign, as a quotient of naturals. -/
theorem size_eq (x : Binary64) :
    (x.mantissa * 2 ^ x.exponent : ℚ) =
      ((x.mantissa <<< x.exponent.toNat : ℕ) : ℚ) / ((1 <<< (-x.exponent).toNat : ℕ) : ℚ) := by
  rw [Nat.shiftLeft_eq, Nat.shiftLeft_eq, Nat.one_mul]
  push_cast
  rcases le_total 0 x.exponent with hexponent | hexponent
  · obtain ⟨k, hk⟩ := Int.eq_ofNat_of_zero_le hexponent
    have hneg : (-(k : ℤ)).toNat = 0 := by omega
    rw [hk, hneg, Int.toNat_natCast, zpow_natCast, pow_zero, div_one]
  · obtain ⟨k, hk⟩ := Int.eq_ofNat_of_zero_le (neg_nonneg.mpr hexponent)
    have hexp : x.exponent = -(k : ℤ) := by omega
    have htoNat : (-(k : ℤ)).toNat = 0 := by omega
    rw [hexp, htoNat, neg_neg, Int.toNat_natCast, zpow_neg, zpow_natCast, pow_zero, mul_one,
      div_eq_mul_inv]

/-- A quotient of naturals is an integer exactly if nothing remains of the division. -/
theorem quotient_eq_iff {num den : ℕ} (hden : den ≠ 0) :
    (num : ℚ) / den = n ↔ num % den = 0 ∧ ((num / den : ℕ) : ℤ) = n := by
  have hden' : (den : ℚ) ≠ 0 := Nat.cast_ne_zero.mpr hden
  constructor
  · intro h
    have hnum : (num : ℤ) = n * den := by exact_mod_cast (div_eq_iff hden').mp h
    refine ⟨?_, ?_⟩
    · exact Nat.mod_eq_zero_of_dvd (Int.natCast_dvd_natCast.mp ⟨n, hnum.trans (mul_comm _ _)⟩)
    · rw [Int.natCast_div, hnum, Int.mul_ediv_cancel _ (Int.natCast_ne_zero.mpr hden)]
  · rintro ⟨hmod, rfl⟩
    rw [Int.cast_natCast, Nat.cast_div_charZero (Nat.dvd_of_mod_eq_zero hmod)]

/-- A number is taken for the integer that it is exactly, if it is one. -/
theorem toInt?_eq_some_iff : x.toInt? = some n ↔ x.exact = n := by
  have hden : 1 <<< (-x.exponent).toNat ≠ 0 := by
    rw [Nat.shiftLeft_eq, Nat.one_mul]
    exact pow_ne_zero _ two_ne_zero
  rw [exact, size_eq, toInt?]
  cases x.negative with
  | false =>
    simp only [Bool.false_eq_true, if_false, Option.ite_none_right_eq_some, Option.some.injEq]
    exact (quotient_eq_iff hden).symm
  | true =>
    simp only [if_true, Option.ite_none_right_eq_some, Option.some.injEq]
    rw [neg_eq_iff_eq_neg, neg_eq_iff_eq_neg, ← Int.cast_neg]
    exact (quotient_eq_iff hden).symm

end Binary64

/-! ## Numerals -/

namespace Numeral

variable {cs : List Char} {n : ℤ}

/-- An optional sign and one or more digits, with the integer that they denote. -/
inductive Denotes : List Char → ℤ → Prop where
  | unsigned {digits : List Char} :
    digits ≠ [] → AllDigits digits → Denotes digits (value digits)
  | plus {digits : List Char} :
    digits ≠ [] → AllDigits digits → Denotes ('+' :: digits) (value digits)
  | minus {digits : List Char} :
    digits ≠ [] → AllDigits digits → Denotes ('-' :: digits) (-(value digits))

theorem takeSign_cases (cs : List Char) :
    (∃ rest, cs = '+' :: rest ∧ takeSign cs = (false, rest)) ∨
      (∃ rest, cs = '-' :: rest ∧ takeSign cs = (true, rest)) ∨ takeSign cs = (false, cs) := by
  unfold takeSign
  split
  · exact .inl ⟨_, rfl, rfl⟩
  · exact .inr (.inl ⟨_, rfl, rfl⟩)
  · exact .inr (.inr rfl)

/-- Digits have no sign in front. -/
theorem takeSign_digits (h : AllDigits cs) : takeSign cs = (false, cs) := by
  rcases takeSign_cases cs with ⟨rest, rfl, -⟩ | ⟨rest, rfl, -⟩ | htake
  · exact absurd (h '+' List.mem_cons_self) (by decide)
  · exact absurd (h '-' List.mem_cons_self) (by decide)
  · exact htake

/-- A numeral is worth what its digits are, with its sign. -/
theorem toInt?_of_takeSign {negative : Bool} {digits : List Char}
    (htake : takeSign cs = (negative, digits)) :
    toInt? cs = some n ↔ digits ≠ [] ∧ AllDigits digits ∧
      (if negative then -(value digits : ℤ) else value digits) = n := by
  rw [toInt?, htake]
  simp [AllDigits, and_assoc]

/-- A numeral is read as the integer that it denotes, and nothing else is read. -/
theorem toInt?_eq_some_iff : toInt? cs = some n ↔ Denotes cs n := by
  constructor
  · intro h
    rcases takeSign_cases cs with ⟨rest, rfl, htake⟩ | ⟨rest, rfl, htake⟩ | htake
    all_goals obtain ⟨hempty, hdigits, rfl⟩ := (toInt?_of_takeSign htake).mp h
    · exact .plus hempty hdigits
    · exact .minus hempty hdigits
    · exact .unsigned hempty hdigits
  · intro h
    cases h with
    | unsigned hempty hdigits =>
      exact (toInt?_of_takeSign (takeSign_digits hdigits)).mpr ⟨hempty, hdigits, rfl⟩
    | plus hempty hdigits => exact (toInt?_of_takeSign rfl).mpr ⟨hempty, hdigits, rfl⟩
    | minus hempty hdigits => exact (toInt?_of_takeSign rfl).mpr ⟨hempty, hdigits, rfl⟩

/-- A text that denotes a number is not empty. -/
theorem Denotes.ne_nil (h : Denotes cs n) : cs ≠ [] := by
  cases h with
  | unsigned hempty _ => exact hempty
  | plus _ _ => exact List.cons_ne_nil _ _
  | minus _ _ => exact List.cons_ne_nil _ _

/-- No white space stands in a numeral. -/
theorem Denotes.not_blank (h : Denotes cs n) : ∀ c ∈ cs, Text.isBlank c = false := by
  have hdigits {digits : List Char} (hdigits : AllDigits digits) :
      ∀ c ∈ digits, Text.isBlank c = false := by
    intro c hc
    obtain ⟨hlow, hhigh⟩ := toNat_of_isDigit (hdigits c hc)
    simp only [Text.isBlank, Bool.or_eq_false_iff, Bool.and_eq_false_iff, decide_eq_false_iff_not,
      beq_eq_false_iff_ne]
    omega
  cases h with
  | unsigned _ hall => exact hdigits hall
  | plus _ hall => exact List.forall_mem_cons.mpr ⟨by decide, hdigits hall⟩
  | minus _ hall => exact List.forall_mem_cons.mpr ⟨by decide, hdigits hall⟩

end Numeral

/-! ## White space around a numeral -/

/-- A text is what is left when the white space at its ends is taken away, with that around it. -/
theorem Text.exists_blanks (cs : List Char) :
    ∃ before after, (∀ c ∈ before ++ after, isBlank c = true) ∧
      cs = before ++ trim cs ++ after := by
  refine ⟨cs.takeWhile isBlank, ((cs.dropWhile isBlank).reverse.takeWhile isBlank).reverse,
    ?_, ?_⟩
  · intro c hc
    rcases List.mem_append.mp hc with hc | hc
    · exact List.mem_takeWhile_imp hc
    · exact List.mem_takeWhile_imp (List.mem_reverse.mp hc)
  · rw [trim, List.append_assoc, ← List.reverse_append, List.takeWhile_append_dropWhile,
      List.reverse_reverse, List.takeWhile_append_dropWhile]

/-- White space around a word is taken away. -/
theorem Text.trim_blanks {before word after : List Char}
    (hblank : ∀ c ∈ before ++ after, isBlank c = true) (hempty : word ≠ [])
    (hword : ∀ c ∈ word, isBlank c = false) : trim (before ++ word ++ after) = word := by
  -- a word stops the search for white space from either side
  have hstop {cs : List Char} (hempty : cs ≠ []) (hcs : ∀ c ∈ cs, isBlank c = false)
      (rest : List Char) : (cs ++ rest).dropWhile isBlank = cs ++ rest := by
    cases cs with
    | nil => exact absurd rfl hempty
    | cons c more =>
      rw [List.cons_append, List.dropWhile_cons_of_neg]
      rw [hcs c List.mem_cons_self]
      exact Bool.false_ne_true
  have hbefore : ∀ c ∈ before, isBlank c = true :=
    fun c hc => hblank c (List.mem_append_left _ hc)
  have hafter : ∀ c ∈ after.reverse, isBlank c = true :=
    fun c hc => hblank c (List.mem_append_right _ (List.mem_reverse.mp hc))
  have hreverse := hstop (List.reverse_ne_nil_iff.mpr hempty)
    (fun c hc => hword c (List.mem_reverse.mp hc)) []
  rw [List.append_nil] at hreverse
  rw [trim, List.append_assoc, List.dropWhile_append_of_pos hbefore, hstop hempty hword,
    List.reverse_append, List.dropWhile_append_of_pos hafter, hreverse, List.reverse_reverse]

/-- A numeral is read from any text that has it between white space. -/
theorem Numeral.toInt?_trim_eq_some_iff {cs : List Char} {n : ℤ} :
    toInt? (Text.trim cs) = some n ↔ ∃ before numeral after,
      (∀ c ∈ before ++ after, Text.isBlank c = true) ∧ Denotes numeral n ∧
        cs = before ++ numeral ++ after := by
  rw [toInt?_eq_some_iff]
  constructor
  · intro h
    obtain ⟨before, after, hblank, hcs⟩ := Text.exists_blanks cs
    exact ⟨before, _, after, hblank, h, hcs⟩
  · rintro ⟨before, numeral, after, hblank, h, rfl⟩
    rwa [Text.trim_blanks hblank h.ne_nil h.not_blank]

/-! ## Reading -/

/-- The integers of 64 bits with sign. -/
theorem Word.fitsSigned_iff {n : ℤ} : fitsSigned n = true ↔ -2 ^ 63 ≤ n ∧ n < 2 ^ 63 := by
  rw [fitsSigned, Bool.and_eq_true, decide_eq_true_iff, decide_eq_true_iff, least, greatest]
  omega

/-- The long that a value states: as an integer, as a number that is an integer exactly, the least
long excepted, or as a numeral between white space. -/
inductive Json.StatesLong : Json → ℤ → Prop where
  | integer {n : ℤ} : -2 ^ 63 ≤ n → n < 2 ^ 63 → StatesLong (.integer n) n
  | float {x : Binary64} {n : ℤ} : x.exact = n → |n| < 2 ^ 63 → StatesLong (.float x) n
  | text {text : String} {before numeral after : List Char} {n : ℤ} :
    text.toList = before ++ numeral ++ after →
    (∀ c ∈ before ++ after, Text.isBlank c = true) → Numeral.Denotes numeral n →
    -2 ^ 63 ≤ n → n < 2 ^ 63 → StatesLong (.string text) n

namespace Literal

variable {raw : Json} {n : ℤ}

/-- The integer that a value stands for, whatever its size. -/
def statedInteger? : Json → Option ℤ
  | .integer n => some n
  | .float x => x.toInt?.filter fun n => n != Word.least
  | .string text => Numeral.toInt? (Text.trim text.toList)
  | _ => none

/-- What can be read as a long is what states an integer of 64 bits. -/
theorem readLong_eq_ok_iff_stated :
    readLong raw = .ok n ↔ statedInteger? raw = some n ∧ -2 ^ 63 ≤ n ∧ n < 2 ^ 63 := by
  rw [← Word.fitsSigned_iff, ← Option.filter_eq_some_iff]
  unfold readLong
  extract_lets found
  change _ ↔ found.filter Word.fitsSigned = some n
  cases found.filter Word.fitsSigned with
  | none => simp
  | some k => simp

theorem readLong_eq_ok_iff : readLong raw = .ok n ↔ raw.StatesLong n := by
  rw [readLong_eq_ok_iff_stated]
  cases raw with
  | integer k =>
    rw [statedInteger?, Option.some.injEq]
    constructor
    · rintro ⟨rfl, hlow, hhigh⟩
      exact .integer hlow hhigh
    · intro h
      cases h with
      | integer hlow hhigh => exact ⟨rfl, hlow, hhigh⟩
  | float x =>
    -- `-2 ^ 63` is refused where it comes as a float, so the bound is strict on both sides
    have hbounds : |n| < 2 ^ 63 ↔ n ≠ Word.least ∧ -2 ^ 63 ≤ n ∧ n < 2 ^ 63 := by
      rw [abs_lt, Word.least]
      omega
    rw [statedInteger?, Option.filter_eq_some_iff, Binary64.toInt?_eq_some_iff, bne_iff_ne,
      and_assoc, ← hbounds]
    constructor
    · rintro ⟨hexact, hsize⟩
      exact .float hexact hsize
    · intro h
      cases h with
      | float hexact hsize => exact ⟨hexact, hsize⟩
  | string text =>
    rw [statedInteger?, Numeral.toInt?_trim_eq_some_iff]
    constructor
    · rintro ⟨⟨before, numeral, after, hblank, hdenotes, htext⟩, hlow, hhigh⟩
      exact .text htext hblank hdenotes hlow hhigh
    · intro h
      cases h with
      | text htext hblank hdenotes hlow hhigh =>
        exact ⟨⟨_, _, _, hblank, hdenotes, htext⟩, hlow, hhigh⟩
  | _ =>
    constructor
    · rintro ⟨⟨⟩, -⟩
    · rintro ⟨⟩

/-- A value that states no long is refused. -/
theorem readLong_eq_error_iff :
    readLong raw = .error (.mismatch .integer raw) ↔ ∀ n, ¬ raw.StatesLong n := by
  simp only [← readLong_eq_ok_iff]
  unfold readLong
  extract_lets found
  cases found.filter Word.fitsSigned with
  | none => simp
  | some k => simp

end Literal

/-! ## Writing -/

namespace Numeral

variable {cs : List Char} {c : Char} {rest : List Char} {n : ℤ}

/-- The canonical decimal of an integer: only negative numbers have a sign, and only zero begins
with a zero. -/
inductive Canonical : List Char → ℤ → Prop where
  | zero : Canonical ['0'] 0
  | positive {c : Char} {rest : List Char} :
    AllDigits (c :: rest) → c ≠ '0' → Canonical (c :: rest) (value (c :: rest))
  | negative {c : Char} {rest : List Char} :
    AllDigits (c :: rest) → c ≠ '0' → Canonical ('-' :: c :: rest) (-(value (c :: rest)))

/-- The first digit counts if it is no zero. -/
theorem le_value (h : AllDigits (c :: rest)) (hc : c ≠ '0') :
    10 ^ rest.length ≤ value (c :: rest) := by
  have hdigit : 1 ≤ c.toNat - '0'.toNat := by
    have hlow := (toNat_of_isDigit (h c List.mem_cons_self)).1
    have hne : c.toNat ≠ '0'.toNat := fun heq => hc (Char.toNat_inj.mp heq)
    have hzero : '0'.toNat = 48 := rfl
    omega
  rw [value_cons]
  exact (Nat.le_mul_of_pos_right _ hdigit).trans (Nat.le_add_right _ _)

/-- Digits without a zero in front are those of the number that they denote. -/
theorem toDigits_value (h : AllDigits (c :: rest)) (hc : c ≠ '0') :
    Nat.toDigits 10 (value (c :: rest)) = c :: rest := by
  refine value_injective (.toDigits _) h ?_ (value_toDigits _)
  apply Nat.le_antisymm
  · exact (Nat.length_toDigits_le_iff (by decide) (Nat.succ_pos _)).mpr (value_lt h)
  · rw [List.length_cons, Nat.succ_le_iff]
    by_contra hle
    rcases Nat.eq_zero_or_pos rest.length with hnil | hpos
    · rw [hnil, not_lt, Nat.le_zero, List.length_eq_zero_iff] at hle
      exact Nat.toDigits_ne_nil hle
    · have hlt := (Nat.length_toDigits_le_iff (by decide) hpos).mp (not_lt.mp hle)
      exact absurd (le_value h hc) (not_le.mpr hlt)

/-- The digits of a positive number have no zero in front. -/
theorem toDigits_cons {k : ℕ} (hk : 0 < k) : ∃ c rest, Nat.toDigits 10 k = c :: rest ∧ c ≠ '0' := by
  obtain ⟨c, rest, hdigits⟩ := List.exists_cons_of_ne_nil (Nat.toDigits_ne_nil (n := k) (b := 10))
  refine ⟨c, rest, hdigits, ?_⟩
  rintro rfl
  -- without the zero there would be fewer digits for the same number
  have hvalue : value rest = k := by
    have h := value_toDigits k
    rwa [hdigits, value_cons, Nat.sub_self, Nat.mul_zero, Nat.zero_add] at h
  have hrest : AllDigits rest := by
    have h := AllDigits.toDigits k
    rw [hdigits] at h
    exact fun d hd => h d (List.mem_cons_of_mem _ hd)
  rcases Nat.eq_zero_or_pos rest.length with hnil | hpos
  · rw [List.length_eq_zero_iff.mp hnil] at hvalue
    exact hk.ne hvalue
  · have hlength := (Nat.length_toDigits_le_iff (by decide) hpos).mpr (hvalue ▸ value_lt hrest)
    rw [hdigits] at hlength
    exact absurd hlength (Nat.not_succ_le_self _)

/-- An integer is written with its decimal digits, and a minus before them if it is negative. -/
theorem toList_toString (n : ℤ) :
    (toString n).toList =
      if n < 0 then '-' :: Nat.toDigits 10 n.natAbs else Nat.toDigits 10 n.natAbs := by
  cases n with
  | ofNat k => simp [Int.toString_eq_repr, Int.repr, Nat.toList_repr]
  | negSucc k => simp [Int.toString_eq_repr, Int.repr, Nat.toList_repr]

/-- An integer is written as its canonical decimal, of which there is one only. -/
theorem canonical_iff : Canonical cs n ↔ cs = (toString n).toList := by
  rw [toList_toString]
  constructor
  · intro h
    cases h with
    | zero => rfl
    | @positive c rest hdigits hc =>
      rw [if_neg (Int.natCast_nonneg _).not_gt, Int.natAbs_natCast, toDigits_value hdigits hc]
    | @negative c rest hdigits hc =>
      have hpos : 0 < value (c :: rest) := (Nat.pow_pos (by decide)).trans_le (le_value hdigits hc)
      rw [if_pos (neg_neg_of_pos (Int.natCast_pos.mpr hpos)), Int.natAbs_neg, Int.natAbs_natCast,
        toDigits_value hdigits hc]
  · rintro rfl
    -- without a leading zero, the digits are those of the number
    have hdigits {k : ℕ} (hk : 0 < k) :
        Canonical (Nat.toDigits 10 k) k ∧ Canonical ('-' :: Nat.toDigits 10 k) (-k) := by
      obtain ⟨c, rest, hcons, hc⟩ := toDigits_cons hk
      have hall := AllDigits.toDigits k
      have hvalue := value_toDigits k
      rw [hcons] at hall hvalue ⊢
      rw [← hvalue]
      exact ⟨.positive hall hc, .negative hall hc⟩
    rcases lt_trichotomy n 0 with hn | rfl | hn
    · rw [if_pos hn]
      have h := (hdigits (Int.natAbs_pos.mpr hn.ne)).2
      rwa [Int.ofNat_natAbs_of_nonpos hn.le, neg_neg] at h
    · exact .zero
    · rw [if_neg hn.not_gt]
      have h := (hdigits (Int.natAbs_pos.mpr hn.ne')).1
      rwa [Int.natAbs_of_nonneg hn.le] at h

/-- What is canonical is a numeral. -/
theorem Canonical.denotes (h : Canonical cs n) : Denotes cs n := by
  cases h with
  | zero => exact .unsigned (List.cons_ne_nil _ _) (.zeros 1)
  | positive hdigits _ => exact .unsigned (List.cons_ne_nil _ _) hdigits
  | negative hdigits _ => exact .minus (List.cons_ne_nil _ _) hdigits

end Numeral

/-! ## The decimal as a JSON text -/

namespace Json

variable {negative : Bool} {c : Char} {rest : List Char}

/-- A text that is one token, and this a value, states the value. -/
theorem parse?_of_token (limit : ℕ) {value : Json} (hgap : isGap c = false)
    (h : token? (c :: rest) = some (.scalar value, [])) :
    parse? limit (String.ofList (c :: rest)) = some value := by
  have htokens : tokens? (c :: rest) = some [.scalar value] := by
    rw [tokens?, tokensFrom?, if_neg (Bool.eq_false_iff.mp hgap)]
    split
    · next hnone => cases h.symm.trans hnone
    · next hsome =>
      obtain ⟨rfl, rfl⟩ := Prod.mk.inj (Option.some.inj (h.symm.trans hsome))
      rw [tokensFrom?]
      rfl
  rw [parse?, String.toList_ofList, htokens]
  rfl

/-- Digits, of which the first is no superfluous zero, are read to the end as a whole number. -/
theorem readNumber?_digits (h : AllDigits (c :: rest)) (hzero : c = '0' → rest = []) :
    readNumber? negative (c :: rest) =
      (wholeNumber? negative (c :: rest)).map fun value => (value, []) := by
  have hwhole : takeWhole? (c :: rest) = some (c :: rest, []) := by
    unfold takeWhole?
    split
    · next hnil => cases hnil
    · next more hcons =>
      obtain ⟨rfl, rfl⟩ := List.cons.inj hcons
      rw [hzero rfl]
    · next d more _ hcons =>
      obtain ⟨rfl, rfl⟩ := List.cons.inj hcons
      have hrest : ∀ d ∈ rest, d.isDigit = true := fun d hd => h d (List.mem_cons_of_mem _ hd)
      rw [if_pos (h c List.mem_cons_self), List.takeWhile_eq_self_iff.mpr hrest,
        List.dropWhile_eq_nil_iff.mpr hrest]
  rw [readNumber?, hwhole]
  rfl

/-- A digit begins a number that is not negative. -/
theorem token?_digit (h : c.isDigit = true) :
    token? (c :: rest) =
      (readNumber? false (c :: rest)).map fun (value, rest) => (.scalar value, rest) := by
  unfold token?
  split
  case h_12 => rfl
  all_goals
    next heq =>
    obtain ⟨rfl, -⟩ := List.cons.inj heq
    exact absurd h (by decide)

theorem isGap_digit (h : c.isDigit = true) : isGap c = false := by
  refine Bool.eq_false_iff.mpr fun hgap => ?_
  simp only [isGap, Bool.or_eq_true, beq_iff_eq] at hgap
  rcases hgap with ((rfl | rfl) | rfl) | rfl
  all_goals exact absurd h (by decide)

/-- Digits that are worth less than the bound are read as an integer. -/
theorem wholeNumber?_long {digits : List Char} (h : Numeral.value digits < 2 ^ 63) :
    wholeNumber? false digits = some (.integer (Numeral.value digits)) := by
  have hfits : Word.fitsUnsigned (Numeral.value digits) = true := by
    rw [Word.fitsUnsigned, decide_eq_true_iff]
    omega
  rw [wholeNumber?, if_neg (fun hneg => Bool.false_ne_true hneg.1), if_pos ⟨rfl, hfits⟩]

theorem wholeNumber?_negative {digits : List Char} (hpos : 0 < Numeral.value digits)
    (h : Numeral.value digits ≤ 2 ^ 63) :
    wholeNumber? true digits = some (.integer (-(Numeral.value digits))) := by
  have hfits : Word.fitsSigned (-(Numeral.value digits)) = true := by
    rw [Word.fitsSigned_iff]
    omega
  rw [wholeNumber?, if_pos ⟨rfl, hpos, hfits⟩]

/-- The canonical decimal of a long is a JSON text that states the integer. -/
theorem parse?_canonical (limit : ℕ) {cs : List Char} {n : ℤ} (h : Numeral.Canonical cs n)
    (hlow : -2 ^ 63 ≤ n) (hhigh : n < 2 ^ 63) :
    parse? limit (String.ofList cs) = some (.integer n) := by
  cases h with
  | zero =>
    refine parse?_of_token limit rfl ?_
    have hdigits : AllDigits ['0'] := .zeros 1
    rw [token?_digit rfl, readNumber?_digits hdigits fun _ => rfl, wholeNumber?_long (by decide)]
    rfl
  | @positive c rest hdigits hc =>
    have hdigit := hdigits c List.mem_cons_self
    refine parse?_of_token limit (isGap_digit hdigit) ?_
    rw [token?_digit hdigit, readNumber?_digits hdigits fun hzero => absurd hzero hc,
      wholeNumber?_long (by omega)]
    rfl
  | @negative c rest hdigits hc =>
    have hpos : 0 < Numeral.value (c :: rest) :=
      (Nat.pow_pos (by decide)).trans_le (Numeral.le_value hdigits hc)
    refine parse?_of_token limit rfl ?_
    rw [token?, readNumber?_digits hdigits fun hzero => absurd hzero hc,
      wholeNumber?_negative hpos (by omega)]
    rfl

end Json

/-! ## Longs -/

namespace Literal

variable {raw : Json} {n : ℤ}

/-- A value is read as a long exactly if it states that long. -/
theorem read_long_iff : read .long raw = .ok (.long n) ↔ raw.StatesLong n := by
  rw [← readLong_eq_ok_iff, read]
  cases readLong raw with
  | error defect => simp [Except.map]
  | ok k => simp [Except.map]

/-- It is refused exactly if it states none, and then because it is no integer. -/
theorem read_long_error_iff :
    read .long raw = .error (.mismatch .integer raw) ↔ ∀ n, ¬ raw.StatesLong n := by
  rw [← readLong_eq_error_iff, read]
  cases readLong raw with
  | error defect => simp [Except.map]
  | ok k => simp [Except.map]

/-- What is read as a long is one. -/
theorem exists_long_of_read {literal : Literal} (h : read .long raw = .ok literal) :
    ∃ n, literal = .long n ∧ raw.StatesLong n := by
  rw [read] at h
  cases hread : readLong raw with
  | error defect =>
    rw [hread] at h
    cases h
  | ok k =>
    rw [hread] at h
    exact ⟨k, (Except.ok.inj h).symm, readLong_eq_ok_iff.mp hread⟩

/-- A value of type long is converted to the literal of the long that it states, and needs nothing
else. -/
theorem convertValue_long_iff {m : Mapping} {owner : Owner} {v w : Variables} {c : Converted} :
    (convertValue m owner (.scalar .long) raw).outcome v = (.ok c, w) ↔
      ∃ n, raw.StatesLong n ∧ c = { literals := [(long n).text] } ∧ w = v := by
  constructor
  · intro h
    obtain ⟨literal, hread, rfl, rfl⟩ := convertValue_scalar_ok h
    obtain ⟨n, rfl, hstates⟩ := exists_long_of_read hread
    exact ⟨n, hstates, rfl, rfl⟩
  · rintro ⟨n, hstates, rfl, rfl⟩
    rw [convertValue, read_long_iff.mpr hstates]
    rfl

/-- **Longs are exact.** A value is read as a long exactly if it states one: as an integer, as a
number that is an integer exactly and not the least long, or as a numeral between white space; any
other value is refused. What is written for it is the literal of that long and nothing else. The
literal of a long is its canonical decimal. It states the long again as a text, and read as JSON it
is the integer, which states the long as well. -/
theorem long_exact :
    (∀ raw n, read .long raw = .ok (.long n) ↔ raw.StatesLong n) ∧
    (∀ raw, read .long raw = .error (.mismatch .integer raw) ↔ ∀ n, ¬ raw.StatesLong n) ∧
    (∀ m owner raw v c w, (convertValue m owner (.scalar .long) raw).outcome v = (.ok c, w) ↔
      ∃ n, raw.StatesLong n ∧ c = { literals := [(long n).text] } ∧ w = v) ∧
    ∀ n : ℤ, -2 ^ 63 ≤ n → n < 2 ^ 63 →
      (∀ cs, Numeral.Canonical cs n ↔ cs = (long n).text.toList) ∧
      read .long (.string (long n).text) = .ok (.long n) ∧
      Json.parse? Json.depthLimit (long n).text = some (.integer n) ∧
      read .long (.integer n) = .ok (.long n) := by
  refine ⟨fun _ _ => read_long_iff, fun _ => read_long_error_iff,
    fun _ _ _ _ _ _ => convertValue_long_iff, fun n hlow hhigh => ?_⟩
  have hcanonical : Numeral.Canonical (long n).text.toList n := Numeral.canonical_iff.mpr rfl
  refine ⟨fun cs => Numeral.canonical_iff, ?_, ?_, read_long_iff.mpr (.integer hlow hhigh)⟩
  · have hplain : (long n).text.toList = [] ++ (long n).text.toList ++ [] := by simp
    exact read_long_iff.mpr
      (.text hplain (fun _ hc => absurd hc List.not_mem_nil) hcanonical.denotes hlow hhigh)
  · have h := Json.parse?_canonical Json.depthLimit hcanonical hlow hhigh
    rwa [String.ofList_toList] at h

/-- The least long is written and read again, but a number with a point or an exponent of the same
size is refused. -/
theorem long_exact_least :
    (-2 ^ 63 ≤ Word.least ∧ Word.least < 2 ^ 63) ∧
      (long Word.least).text = "-9223372036854775808" ∧
      read .long (.string (long Word.least).text) = .ok (.long Word.least) ∧
      Json.parse? Json.depthLimit (long Word.least).text = some (.integer Word.least) ∧
      read .long (.float ⟨true, Binary64.leastNormal, 11⟩) =
        .error (.mismatch .integer (.float ⟨true, Binary64.leastNormal, 11⟩)) := by
  have hbounds : -2 ^ 63 ≤ Word.least ∧ Word.least < 2 ^ 63 := Word.fitsSigned_iff.mp rfl
  obtain ⟨-, hrefused, -, hwritten⟩ := long_exact
  obtain ⟨-, htext, hjson, -⟩ := hwritten Word.least hbounds.1 hbounds.2
  refine ⟨hbounds, rfl, htext, hjson, (hrefused _).mpr fun n hstates => ?_⟩
  cases hstates with
  | float hexact hsize =>
    have hleast : Binary64.toInt? ⟨true, Binary64.leastNormal, 11⟩ = some Word.least := by decide
    obtain rfl := Option.some.inj (hleast.symm.trans (Binary64.toInt?_eq_some_iff.mpr hexact))
    exact absurd hsize (by decide)

end Literal

end ThreatGraph
