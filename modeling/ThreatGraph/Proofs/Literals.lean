import ThreatGraph.Proofs.Wording
import ThreatGraph.ValueType.Literal

/-!
# Literals are values

Whatever a literal was read from, its text is a value: texts are quoted, and the texts of truth
values, numbers and datetimes are tokens, put together from digits and a few marks
(`Literal.isValue_text`).

For each kind of literal the characters are followed from the digits up: what is written in full or
with an exponent has digits, a point, a sign and the letter of the exponent, all of them characters
of tokens.
-/

namespace ThreatGraph

theorem isTokenChar_of_isDigit {c : Char} (h : c.isDigit = true) : isTokenChar c = true := by
  simp [isTokenChar, Char.isAlphanum, h]

/-- Digits are characters of tokens. -/
theorem isTokenChar_of_mem_toDigits {n : Nat} {c : Char} (h : c ∈ Nat.toDigits 10 n) :
    isTokenChar c = true :=
  isTokenChar_of_isDigit (Nat.isDigit_of_mem_toDigits (by decide) (by decide) h)

/-- Characters of tokens make a token, if there are any. -/
theorem isToken_ofList {cs : List Char} (hempty : cs ≠ []) (h : ∀ c ∈ cs, isTokenChar c = true) :
    IsToken (String.ofList cs) := by
  refine ⟨fun heq => hempty ?_, ?_⟩
  · simpa using congrArg String.toList heq
  · simpa using h

/-! ## Integers -/

theorem isToken_toString (n : Int) : IsToken (toString n) := by
  cases n with
  | ofNat k => exact isToken_ofList Nat.toDigits_ne_nil fun c hc => isTokenChar_of_mem_toDigits hc
  | negSucc k =>
    refine ⟨by simp [Int.toString_eq_repr, Int.repr], fun c hc => ?_⟩
    have hc : c = '-' ∨ c ∈ Nat.toDigits 10 k.succ := by
      simpa [Int.toString_eq_repr, Int.repr, Nat.toList_repr] using hc
    rcases hc with rfl | hc
    · decide
    · exact isTokenChar_of_mem_toDigits hc

/-! ## Doubles -/

namespace Binary64

theorem isDigit_of_mem_decimalOf {count : Nat} {power : Int} {c : Char}
    (h : c ∈ (decimalOf count power).digits) : c.isDigit = true := by
  have hmem : c ∈ (Nat.toDigits 10 count).reverse :=
    (List.dropWhile_sublist _).subset (List.mem_reverse.mp h)
  exact Nat.isDigit_of_mem_toDigits (by decide) (by decide) (List.mem_reverse.mp hmem)

theorem isDigit_of_mem_shortest {tie : Tie} {x : Binary64} {c : Char}
    (h : c ∈ (x.shortest tie).digits) : c.isDigit = true := by
  have hfound : ∀ (found : Option Decimal) (leading : Int),
      (∀ d, found = some d → ∃ count power, d = decimalOf count power) →
        c ∈ (found.getD ⟨[], leading⟩).digits → c.isDigit = true := by
    intro found leading hdecimal hc
    cases found with
    | none => cases hc
    | some d =>
      obtain ⟨count, power, rfl⟩ := hdecimal d rfl
      exact isDigit_of_mem_decimalOf hc
  refine hfound _ _ (fun d hd => ?_) h
  obtain ⟨k, -, hk⟩ := List.exists_of_findSome?_eq_some hd
  obtain ⟨count, -, rfl⟩ := Option.map_eq_some_iff.mp hk
  exact ⟨count, _, rfl⟩

end Binary64

namespace Decimal

variable {d : Decimal} {c : Char}

/-- A decimal that is written in full has characters of tokens only. -/
theorem isTokenChar_of_mem_inFull (hd : ∀ c ∈ d.digits, c.isDigit = true) (h : c ∈ d.inFull) :
    isTokenChar c = true := by
  have hzero {n : Nat} (h : c ∈ List.replicate n '0') : isTokenChar c = true := by
    obtain rfl := List.eq_of_mem_replicate h
    decide
  have hdigit (h : c ∈ d.digits) : isTokenChar c = true := isTokenChar_of_isDigit (hd c h)
  unfold inFull at h
  split at h
  · simp only [List.mem_cons, List.mem_append] at h
    rcases h with rfl | rfl | h | h
    · decide
    · decide
    · exact hzero h
    · exact hdigit h
  · simp only [List.mem_cons, List.mem_append] at h
    rcases h with (h | h) | rfl | h
    · exact hdigit (List.mem_of_mem_take h)
    · exact hzero h
    · decide
    · split at h
      · obtain rfl := List.mem_singleton.mp h
        decide
      · exact hdigit (List.mem_of_mem_drop h)

theorem isTokenChar_of_mem_withExponent (hd : ∀ c ∈ d.digits, c.isDigit = true)
    (h : c ∈ d.withExponent []) : isTokenChar c = true := by
  have hdigit (h : c ∈ d.digits) : isTokenChar c = true := isTokenChar_of_isDigit (hd c h)
  unfold withExponent at h
  simp only [List.mem_append, List.mem_cons] at h
  rcases h with h | rfl | h | h
  · split at h
    · next first second more hdigits =>
      rw [hdigits] at hdigit
      simp only [List.mem_cons] at h
      rcases h with rfl | rfl | h
      · exact hdigit List.mem_cons_self
      · decide
      · exact hdigit (List.mem_cons_of_mem _ (List.mem_cons.mpr h))
    · exact hdigit h
  · decide
  · split at h
    · obtain rfl := List.mem_singleton.mp h
      decide
    · cases h
  · exact isTokenChar_of_mem_toDigits h

end Decimal

theorem isToken_write (x : Binary64) : IsToken (String.ofList (Literal.doubleLayout.write x)) := by
  have hd : ∀ c ∈ (x.shortest Literal.doubleLayout.tie).digits, c.isDigit = true :=
    fun c hc => Binary64.isDigit_of_mem_shortest hc
  -- a minus in front is a character of tokens like the others
  have hbody : ∀ body : List Char, (∀ c ∈ body, isTokenChar c = true) → body ≠ [] →
      IsToken (String.ofList (if x.negative then '-' :: body else body)) := by
    intro body hbody hempty
    split
    · refine isToken_ofList (List.cons_ne_nil _ _) fun c hc => ?_
      rcases List.mem_cons.mp hc with rfl | hc
      · decide
      · exact hbody c hc
    · exact isToken_ofList hempty hbody
  unfold Layout.write
  apply hbody
  · intro c hc
    split at hc
    · have hzero : ['0', '.', '0'].all isTokenChar = true := by decide
      exact List.all_eq_true.mp hzero c hc
    · simp only at hc
      split at hc
      · exact Decimal.isTokenChar_of_mem_inFull hd hc
      · exact Decimal.isTokenChar_of_mem_withExponent hd hc
  · split
    · decide
    · simp only
      split
      · unfold Decimal.inFull
        split <;> simp
      · simp [Decimal.withExponent]

/-! ## Datetimes -/

namespace Timestamp

/-- Numbers that are filled up have characters of tokens only. -/
theorem isTokenChar_of_mem_padded {width n : Nat} {c : Char} (h : c ∈ padded width n) :
    isTokenChar c = true := by
  rcases List.mem_append.mp h with h | h
  · obtain rfl := List.eq_of_mem_replicate h
    decide
  · exact isTokenChar_of_mem_toDigits h

theorem isTokenChar_of_mem_writeYear {year : Int} {c : Char} (h : c ∈ writeYear year) :
    isTokenChar c = true := by
  unfold writeYear at h
  split at h
  · rcases List.mem_cons.mp h with rfl | h
    · decide
    · exact isTokenChar_of_mem_padded h
  · exact isTokenChar_of_mem_padded h

theorem isToken_literal (t : Timestamp) : IsToken t.literal := by
  refine isToken_ofList (by simp [literalList]) fun c hc => ?_
  simp only [literalList, List.mem_append, List.mem_cons, List.append_assoc, List.cons_append] at hc
  rcases hc with hc | rfl | hc | rfl | hc | rfl | hc | rfl | hc | rfl | hc | hc
  · exact isTokenChar_of_mem_writeYear hc
  · decide
  · exact isTokenChar_of_mem_padded hc
  · decide
  · exact isTokenChar_of_mem_padded hc
  · decide
  · exact isTokenChar_of_mem_padded hc
  · decide
  · exact isTokenChar_of_mem_padded hc
  · decide
  · exact isTokenChar_of_mem_padded hc
  · split at hc
    · rcases List.mem_cons.mp hc with rfl | hc
      · decide
      · exact isTokenChar_of_mem_padded hc
    · cases hc

end Timestamp

/-- **The text of a literal is a value.** -/
theorem Literal.isValue_text (l : Literal) : IsValue l.text := by
  cases l with
  | boolean flag => cases flag <;> exact .inr (by decide)
  | long n => exact .inr (isToken_toString n)
  | double x => exact .inr (isToken_write x)
  | string text => exact isValue_quote text
  | datetime t => exact .inr t.isToken_literal

end ThreatGraph
