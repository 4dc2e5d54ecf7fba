import ThreatGraph.Proofs.Datetimes

/-!
# Datetimes that are read again

Whatever text a timestamp was read from, it is an instant of the calendar (`Timestamp.Valid`), and
with the mark of universal time behind it the datetime that is written for it would be a timestamp
again. `Timestamp.parse_literal` says when it is one: from the year 0 on, and up to the year 1000
before it. Then nothing is lost but what is shorter than a millisecond. In the years between, the
sign takes the place of a digit (`parse_literal_early`), and a year with three digits is not read.

Datetimes of such years are put in the form of a timestamp again (`Timestamp.form`), part by part,
so that reading them is `parse_form`. Years before the common era are mirrored at the year 0, which
has the same calendar (`isLeap_neg`).
-/

namespace ThreatGraph

/-! ## Numbers as digits -/

namespace Digits

/-- The last digits of a number, zeros in front included. -/
def ofNat (width n : Nat) : Digits (width + 1) (width + 1) :=
  have hlength : (Timestamp.padded (width + 1) (n % 10 ^ (width + 1))).length = width + 1 :=
    Timestamp.length_padded (Nat.succ_pos _) (Nat.mod_lt _ (Nat.pow_pos (by decide)))
  { text := String.ofList (Timestamp.padded (width + 1) (n % 10 ^ (width + 1)))
    allDigits := by
      rw [String.toList_ofList]
      exact Timestamp.allDigits_padded _ _
    least_le := by rw [String.toList_ofList, hlength]
    le_most := by rw [String.toList_ofList, hlength] }

/-- Digits within bounds are within wider ones. -/
def widen {least most least' most' : Nat} (d : Digits least most) (hleast : least' ≤ least)
    (hmost : most ≤ most') : Digits least' most' :=
  { d with
    least_le := Nat.le_trans hleast d.least_le
    le_most := Nat.le_trans d.le_most hmost }

variable {width n : Nat}

/-- A number that fits is written as its digits. -/
theorem toList_ofNat (h : n < 10 ^ (width + 1)) :
    (ofNat width n).text.toList = Timestamp.padded (width + 1) n := by
  rw [ofNat, String.toList_ofList, Nat.mod_eq_of_lt h]

@[simp] theorem toList_widen {least most least' most' : Nat} (d : Digits least most)
    (hleast : least' ≤ least) (hmost : most ≤ most') :
    (d.widen hleast hmost).text.toList = d.text.toList := rfl

/-- A number that fits is the value of its digits. -/
theorem value_ofNat (h : n < 10 ^ (width + 1)) : (ofNat width n).value = n := by
  rw [value, toList_ofNat h, Timestamp.value_padded]

end Digits

/-- A text whose fraction has three digits is its datetime with the mark behind it. -/
theorem TimestampForm.text_eq {w : TimestampForm}
    (h : ∀ f ∈ w.fraction, f.text.toList.length = 3) : w.text = w.datetime ++ "Z" := by
  rw [text, datetime, thousandths?]
  cases hfraction : w.fraction with
  | none => rfl
  | some f =>
    have hthree : (f.text.toList ++ ['0', '0', '0']).take 3 = f.text.toList :=
      List.take_left' (h f hfraction)
    simp [hthree]

namespace Timestamp

variable {width least greatest n : Nat} {part : TimePart} {cs rest : List Char} {t : Timestamp}
  {year : Int}

/-! ## Instants that are read -/

/-- The parts of a timestamp as the calendar, the clock and the resolution allow them. -/
structure Valid (t : Timestamp) : Prop where
  year : t.year.natAbs ≤ 9999
  month : 1 ≤ t.month ∧ t.month ≤ 12
  day : 1 ≤ t.day ∧ t.day ≤ monthLength t.year t.month
  hour : t.hour ≤ 23
  minute : t.minute ≤ 59
  second : t.second ≤ 59
  nanosecond : t.nanosecond < 1000000000
  whole : t.fractional = false → t.nanosecond = 0

/-- A number that is read is within its bounds. -/
theorem le_of_takeNumber (h : takeNumber part width least greatest cs = .ok (n, rest)) :
    least ≤ n ∧ n ≤ greatest := by
  rw [takeNumber] at h
  split at h
  · next hrange =>
    obtain ⟨rfl, -⟩ := Prod.mk.inj (Except.ok.inj h)
    exact ⟨hrange.2.2.1, hrange.2.2.2⟩
  · cases h

theorem natAbs_le_of_takeYear (h : takeYear cs = .ok (year, rest)) : year.natAbs ≤ 9999 := by
  obtain ⟨⟨n, more⟩, hn, h⟩ := except_bind_eq_ok.mp h
  obtain ⟨-, hle⟩ := le_of_takeNumber hn
  obtain ⟨rfl, -⟩ := Prod.mk.inj (Except.ok.inj h)
  split <;> omega

/-- Digits of a fraction state less than a second. -/
theorem nanosecondsOf_lt {digits : List Char} (h : AllDigits digits) :
    nanosecondsOf digits < 1000000000 := by
  have hlength : (digits.take 9 ++ List.replicate (9 - digits.length) '0').length = 9 := by
    rw [List.length_append, List.length_take, List.length_replicate]
    omega
  have hlt := Numeral.value_lt ((h.take 9).append (.zeros (9 - digits.length)))
  rw [hlength] at hlt
  rw [nanosecondsOf]
  omega

theorem lt_of_takeSubsecond (h : takeSubsecond cs = .ok (n, rest)) : n < 1000000000 := by
  rw [takeSubsecond] at h
  split at h
  · cases h
  · obtain ⟨rfl, -⟩ := Prod.mk.inj (Except.ok.inj h)
    exact nanosecondsOf_lt fun c hc => List.all_eq_true.mp List.all_takeWhile c hc

/-- Whatever is read is an instant of the calendar. -/
theorem valid_of_parse {raw : String} (h : parse raw = .ok t) : t.Valid := by
  simp only [parse, parseList, except_bind_eq_ok, Prod.exists] at h
  obtain ⟨year, _, hyear, _, -, month, _, hmonth, _, -, day, _, hday, _, -, hour, _, hhour, _, -,
    minute, _, hminute, _, -, second, _, hsecond, h⟩ := h
  -- the last checks are the same with a fraction and without one
  have hvalid {nanosecond : Nat} (hnanosecond : nanosecond < 1000000000)
      (hwhole : raw.toList.contains '.' = false → nanosecond = 0)
      (h : ¬monthLength year month < day ∧ ¬second = 60 ∧
        pure ⟨year, month, day, hour, minute, second, nanosecond, raw.toList.contains '.'⟩ =
          (.ok t : Except TimestampDefect Timestamp)) : t.Valid := by
    obtain ⟨hlength, hlast, h⟩ := h
    obtain rfl := Except.ok.inj h
    exact
      { year := natAbs_le_of_takeYear hyear
        month := le_of_takeNumber hmonth
        day := ⟨(le_of_takeNumber hday).1, Nat.not_lt.mp hlength⟩
        hour := (le_of_takeNumber hhour).2
        minute := (le_of_takeNumber hminute).2
        second := Nat.le_of_lt_succ (Nat.lt_of_le_of_ne (le_of_takeNumber hsecond).2 hlast)
        nanosecond := hnanosecond
        whole := hwhole }
  split at h
  · next hfractional =>
    simp only [except_bind_eq_ok, check_eq_ok, Prod.exists] at h
    obtain ⟨_, -, nanosecond, _, hnanosecond, _, -, -, h⟩ := h
    have hsome : raw.toList.contains '.' ≠ false := by
      rw [hfractional]
      decide
    exact hvalid (lt_of_takeSubsecond hnanosecond) (fun hnone => absurd hnone hsome) h
  · simp only [pure_bind, except_bind_eq_ok, check_eq_ok] at h
    obtain ⟨_, -, -, h⟩ := h
    exact hvalid (by decide) (fun _ => rfl) h

/-! ## Years before the common era -/

/-- The instant as long before the year 0 as it is after it. -/
def mirror (t : Timestamp) : Timestamp := { t with year := -t.year }

/-- A year before the common era is a leap year like the one of the same number. -/
theorem isLeap_neg (year : Int) : isLeap (-year) = isLeap year := by
  have hdvd (k : Int) : -year % k = 0 ↔ year % k = 0 := by
    rw [← Int.dvd_iff_emod_eq_zero, ← Int.dvd_iff_emod_eq_zero, Int.dvd_neg]
  simp only [isLeap, ne_eq, hdvd]

theorem monthLength_neg (year : Int) (month : Nat) :
    monthLength (-year) month = monthLength year month := by
  rw [monthLength, monthLength, isLeap_neg]

theorem monthLength_natAbs (year : Int) (month : Nat) :
    monthLength year.natAbs month = monthLength year month := by
  rcases Int.natAbs_eq year with h | h
  · rw [← h]
  · rw [← monthLength_neg, ← h]

/-- Four digits behind a minus are read as a negative year. -/
theorem takeYear_negative (d : Digits 4 4) :
    takeYear ('-' :: (d.text.toList ++ rest)) = .ok (-(d.value : Int), rest) := by
  have hlength : d.text.toList.length = 4 := Nat.le_antisymm d.le_most d.least_le
  have hvalue := Numeral.value_lt d.allDigits
  rw [hlength] at hvalue
  rw [takeYear, Numeral.takeSign]
  exact (takeNumber_bind_eq_ok d).mpr ⟨⟨Nat.zero_le _, Nat.le_of_lt_succ hvalue⟩, rfl⟩

/-- With a minus sign in front, a text is read as the year says then, and otherwise alike. -/
theorem parse_negative (w : TimestampForm) : parse ("-" ++ w.text) = mirror <$> parse w.text := by
  have hchars : ("-" ++ w.text).toList = '-' :: w.text.toList := by
    simp
  have hpoint : ('-' :: w.text.toList).contains '.' = w.text.toList.contains '.' := by
    simp
  rw [parse, parse, hchars, parseList, parseList, hpoint, toList_text]
  simp only [takeYear_digits, takeYear_negative, except_ok_bind, map_bind,
    apply_ite (mirror <$> ·), map_pure, monthLength_neg]
  rfl

/-! ## The form of a datetime -/

/-- The instant with what is shorter than a millisecond cut off. -/
def cut (t : Timestamp) : Timestamp :=
  { t with nanosecond := t.nanosecond / 1000000 * 1000000 }

/-- The sign of the year. -/
def sign (t : Timestamp) : String := if t.year < 0 then "-" else ""

/-- The instant as a text, but for the sign of its year and for what is shorter than a
millisecond. -/
def form (t : Timestamp) : TimestampForm where
  year := .ofNat 3 t.year.natAbs
  month := .ofNat 1 t.month
  day := .ofNat 1 t.day
  hour := .ofNat 1 t.hour
  minute := .ofNat 1 t.minute
  second := .ofNat 1 t.second
  fraction := t.millis.map fun n => (Digits.ofNat 2 n).widen (by decide) (by decide)

/-- Three digits are milliseconds. -/
theorem nanosecondsOf_padded (h : n < 10 ^ 3) : nanosecondsOf (padded 3 n) = n * 1000000 := by
  have hlength : (padded 3 n).length = 3 := length_padded (by decide) h
  rw [nanosecondsOf, List.take_of_length_le (by omega), hlength, Numeral.value_append,
    Numeral.value_zeros, value_padded, List.length_replicate, Nat.add_zero, Nat.mul_comm,
    show 10 ^ (9 - 3) = 1000000 by norm_num]

theorem monthLength_le (year : Int) (month : Nat) : monthLength year month ≤ 31 := by
  rw [monthLength]
  split
  · split <;> decide
  · split <;> decide

namespace Valid

variable (h : t.Valid)
include h

theorem year_form : t.form.year.value = t.year.natAbs :=
  Digits.value_ofNat (by have hyear := h.year; omega)

theorem month_form : t.form.month.value = t.month :=
  Digits.value_ofNat (by have hmonth := h.month; omega)

theorem day_form : t.form.day.value = t.day :=
  Digits.value_ofNat (by
    have hday := h.day
    have hlength := monthLength_le t.year t.month
    omega)

theorem hour_form : t.form.hour.value = t.hour :=
  Digits.value_ofNat (by have hhour := h.hour; omega)

theorem minute_form : t.form.minute.value = t.minute :=
  Digits.value_ofNat (by have hminute := h.minute; omega)

theorem second_form : t.form.second.value = t.second :=
  Digits.value_ofNat (by have hsecond := h.second; omega)

/-- The text states an instant. -/
theorem isInstant_form : t.form.IsInstant := by
  constructor
  case month => rw [h.month_form]; exact h.month
  case day =>
    have hlength := monthLength_le t.year t.month
    obtain ⟨hleast, hgreatest⟩ := h.day
    rw [h.year_form, h.month_form, h.day_form, dayExists_iff h.month, monthLength_natAbs]
    omega
  case hour => rw [h.hour_form]; exact h.hour
  case minute => rw [h.minute_form]; exact h.minute
  case second => rw [h.second_form]; exact h.second

theorem fraction_form :
    (t.form.fraction.elim 0 fun f => nanosecondsOf f.text.toList) =
      t.nanosecond / 1000000 * 1000000 := by
  have hmillis : t.nanosecond / 1000000 < 10 ^ 3 := by
    have hnanosecond := h.nanosecond
    omega
  rw [form, millis]
  cases hfractional : t.fractional with
  | false =>
    rw [h.whole hfractional, if_neg Bool.false_ne_true, Option.map_none, Option.elim_none,
      Nat.zero_div, Nat.zero_mul]
  | true =>
    rw [if_pos rfl, Option.map_some, Option.elim_some, Digits.toList_widen,
      Digits.toList_ofNat hmillis, nanosecondsOf_padded hmillis]

/-- It states the same instant but for the sign of the year and for what is cut off. -/
theorem instant_form : t.form.instant = { t.cut with year := t.year.natAbs } := by
  have hfractional : t.form.fraction.isSome = t.fractional := by
    rw [form, millis]
    cases t.fractional <;> rfl
  rw [TimestampForm.instant, h.year_form, h.month_form, h.day_form, h.hour_form, h.minute_form,
    h.second_form, h.fraction_form, hfractional, cut]

end Valid

/-! ## Datetimes -/

/-- Cutting an instant to milliseconds leaves these. -/
theorem millis_cut (t : Timestamp) : t.cut.millis = t.millis := by
  rw [millis, millis, cut, Nat.mul_div_cancel _ (by decide)]

theorem literal_cut (t : Timestamp) : t.cut.literal = t.literal := by
  rw [literal, literal, literalList, literalList, millis_cut]
  rfl

/-- A number that has more digits than it must have is written in the same way where it must have
one more. -/
theorem padded_of_le (hwidth : 0 < width) (h : 10 ^ width ≤ n) :
    padded width n = padded (width + 1) n := by
  have hlong : width < (Nat.toDigits 10 n).length := by
    by_contra hshort
    have hlt := (Nat.length_toDigits_le_iff (by decide) hwidth).mp (Nat.not_lt.mp hshort)
    omega
  rw [padded, padded, Nat.sub_eq_zero_of_le hlong.le, Nat.sub_eq_zero_of_le hlong]

/-- A year is written as its number behind its sign, unless it is too early for four digits. -/
theorem writeYear_eq (h : 0 ≤ year ∨ year ≤ -1000) :
    writeYear year = (if year < 0 then ['-'] else []) ++ writeYear year.natAbs := by
  rw [writeYear, writeYear, if_neg (by omega : ¬(year.natAbs : Int) < 0), Int.natAbs_natCast]
  split
  · rw [padded_of_le (by decide) (by omega)]
    rfl
  · rfl

/-- The sign of the year stands in front of what is written for the year without it, unless a
negative year has less than four digits. -/
theorem literal_natAbs (hyear : 0 ≤ t.year ∨ t.year ≤ -1000) :
    t.literal = t.sign ++ ({ t with year := t.year.natAbs } : Timestamp).literal := by
  apply String.toList_inj.mp
  rw [literal, literal, literalList, literalList, writeYear_eq hyear, sign]
  split
  · simp [millis]
  · simp [millis]

/-- An instant is written as its form behind its sign, unless its year is one of these. -/
theorem Valid.literal_form (h : t.Valid) (hyear : 0 ≤ t.year ∨ t.year ≤ -1000) :
    t.literal = t.sign ++ t.form.datetime := by
  rw [← literal_instant, h.instant_form, ← literal_cut, literal_natAbs (t := t.cut) hyear]
  rfl

/-- With the mark behind it, a datetime is read as the instant that it was written for, cut to
milliseconds. -/
theorem Valid.parse_eq_cut (h : t.Valid) (hyear : 0 ≤ t.year ∨ t.year ≤ -1000) :
    parse (t.literal ++ "Z") = .ok t.cut := by
  have htext : t.form.text = t.form.datetime ++ "Z" := by
    apply TimestampForm.text_eq
    intro f hf
    obtain ⟨n, -, rfl⟩ := Option.map_eq_some_iff.mp hf
    exact Nat.le_antisymm (Digits.ofNat 2 n).le_most (Digits.ofNat 2 n).least_le
  have hparse : parse t.form.text = .ok { t.cut with year := t.year.natAbs } :=
    (parse_eq_ok t.form _).mpr ⟨h.isInstant_form, h.instant_form⟩
  rw [h.literal_form hyear, String.append_assoc, ← htext, sign]
  split
  · next hnegative =>
    have hyear : -(t.year.natAbs : Int) = t.year := by omega
    rw [parse_negative, hparse]
    simp only [Functor.map, Except.map, mirror, hyear]
    rfl
  · next hpositive =>
    have hyear : (t.year.natAbs : Int) = t.year := by omega
    rw [String.empty_append, hparse, hyear]
    rfl

/-! ## Years that the sign shortens -/

theorem takeYear_early (h : n < 1000) :
    takeYear ('-' :: (padded 3 n ++ '-' :: rest)) = .error (.component .year) := by
  have hlength : (padded 3 n).length = 3 := length_padded (by decide) h
  have hfour : (padded 3 n ++ '-' :: rest).take 4 = padded 3 n ++ ['-'] := by
    rw [List.take_append, hlength, List.take_of_length_le (by omega)]
    rfl
  have hmark : (padded 3 n ++ ['-']).all Char.isDigit = false := by
    rw [List.all_append]
    exact Bool.and_false _
  have hnumber : takeNumber .year 4 0 9999 (padded 3 n ++ '-' :: rest) =
      .error (.component .year) := by
    simp [takeNumber, hfour, hmark]
  rw [takeYear, Numeral.takeSign]
  exact except_bind_eq_error.mpr (.inl hnumber)

/-- From a negative year with less than four digits no datetime is read. -/
theorem parse_literal_early (hyear : -1000 < t.year ∧ t.year < 0) :
    parse (t.literal ++ "Z") = .error (.component .year) := by
  obtain ⟨rest, hrest⟩ : ∃ rest, (t.literal ++ "Z").toList =
      '-' :: (padded 3 t.year.natAbs ++ '-' :: rest) := by
    simp [literal, literalList, writeYear, hyear.2]
  rw [parse, hrest, parseList, takeYear_early (by omega)]
  rfl

/-- A datetime begins with a digit. -/
theorem isDigit_head_datetime (w : TimestampForm) :
    ∃ c rest, w.datetime.toList = c :: rest ∧ c.isDigit = true := by
  obtain ⟨others, hothers⟩ : ∃ others, w.datetime.toList = w.year.text.toList ++ others := by
    rw [TimestampForm.datetime]
    split
    · simp [TimestampForm.stem]
    · simp [TimestampForm.stem]
  have hyear := w.year.least_le
  cases hdigits : w.year.text.toList with
  | nil => simp [hdigits] at hyear
  | cons c more =>
    rw [hdigits] at hothers
    exact ⟨c, more ++ others, hothers, w.year.allDigits c (by simp [hdigits])⟩

/-- What is written for a negative year begins with its sign. -/
theorem literal_ne_datetime (hyear : t.year < 0) (w : TimestampForm) : t.literal ≠ w.datetime := by
  intro h
  obtain ⟨c, rest, hdatetime, hc⟩ := isDigit_head_datetime w
  obtain ⟨more, hmore⟩ : ∃ more, t.literal.toList = '-' :: more := by
    simp [literal, literalList, writeYear, hyear]
  rw [h, hdatetime] at hmore
  obtain ⟨rfl, -⟩ := List.cons.inj hmore
  exact absurd hc (by decide)

/-- **Datetimes are read again, but for early years.** Let a timestamp be read from any text. It is
written in the form `YYYY-MM-DDThh:mm:ss[.fff]` exactly if its year is not negative. With the mark
of universal time behind it, what is written is a timestamp exactly if the year is not negative or
has four digits. It is then the instant that was read, cut to milliseconds, so its milliseconds are
the same, and it is written as the same text. -/
theorem parse_literal {raw : String} (h : parse raw = .ok t) :
    ((∃ w : TimestampForm, t.literal = w.datetime) ↔ 0 ≤ t.year) ∧
    ((∃ t', parse (t.literal ++ "Z") = .ok t') ↔ 0 ≤ t.year ∨ t.year ≤ -1000) ∧
    ∀ t', parse (t.literal ++ "Z") = .ok t' →
      t' = t.cut ∧ t'.millis = t.millis ∧ t'.literal = t.literal := by
  have hvalid := valid_of_parse h
  -- a year from -999 to -1 is written with three digits, and reading asks for four
  have hearly (hyear : ¬(0 ≤ t.year ∨ t.year ≤ -1000)) :
      parse (t.literal ++ "Z") = .error (.component .year) := parse_literal_early (by omega)
  refine ⟨⟨?_, ?_⟩, ⟨?_, ?_⟩, ?_⟩
  · rintro ⟨w, hw⟩
    by_contra hnegative
    exact literal_ne_datetime (by omega) w hw
  · intro hyear
    have hliteral := hvalid.literal_form (.inl hyear)
    rw [sign, if_neg (by omega), String.empty_append] at hliteral
    exact ⟨t.form, hliteral⟩
  · rintro ⟨t', ht'⟩
    by_contra hyear
    rw [hearly hyear] at ht'
    cases ht'
  · intro hyear
    exact ⟨t.cut, hvalid.parse_eq_cut hyear⟩
  · intro t' ht'
    by_cases hyear : 0 ≤ t.year ∨ t.year ≤ -1000
    · rw [hvalid.parse_eq_cut hyear] at ht'
      obtain rfl := Except.ok.inj ht'
      exact ⟨rfl, millis_cut t, literal_cut t⟩
    · rw [hearly hyear] at ht'
      cases ht'

/-- A leap day of the year 0, with a sign and as many digits as a fraction can have. -/
theorem parse_literal_zero : ∃ t w t',
    parse "-0000-02-29T23:59:59.00099999999999999999999999999999Z" = .ok t ∧
    t.literal = "0000-02-29T23:59:59.000" ∧ t.literal = TimestampForm.datetime w ∧
    parse (t.literal ++ "Z") = .ok t' ∧ t' = t.cut ∧ t'.millis = some 0 ∧
    t'.literal = "0000-02-29T23:59:59.000" := by
  have hrun : ∃ t, parse "-0000-02-29T23:59:59.00099999999999999999999999999999Z" = .ok t ∧
      t.literal = "0000-02-29T23:59:59.000" ∧ 0 ≤ t.year ∧ t.millis = some 0 :=
    ⟨_, rfl, by decide, by decide, by decide⟩
  obtain ⟨t, ht, hliteral, hyear, hmillis⟩ := hrun
  obtain ⟨hform, hagain, hsame⟩ := parse_literal ht
  obtain ⟨w, hw⟩ := hform.mpr hyear
  obtain ⟨t', ht'⟩ := hagain.mpr (.inl hyear)
  obtain ⟨hcut, hmillis', hliteral'⟩ := hsame t' ht'
  exact ⟨t, w, t', ht, hliteral, hw, ht', hcut, hmillis'.trans hmillis, hliteral'.trans hliteral⟩

/-- The year 44 before the year 0 is written with three digits, and not read again. -/
theorem literal_of_early_year : ∃ t, parse "-0044-03-15T09:30:00Z" = .ok t ∧
    t.literal = "-044-03-15T09:30:00" ∧ (∀ w : TimestampForm, t.literal ≠ w.datetime) ∧
    ∀ t', parse (t.literal ++ "Z") ≠ .ok t' := by
  have hrun : ∃ t, parse "-0044-03-15T09:30:00Z" = .ok t ∧
      t.literal = "-044-03-15T09:30:00" ∧ t.year = -44 :=
    ⟨_, rfl, by decide, by decide⟩
  obtain ⟨t, ht, hliteral, hyear⟩ := hrun
  refine ⟨t, ht, hliteral, literal_ne_datetime (by omega), ?_⟩
  intro t' ht'
  rw [parse_literal_early (by omega)] at ht'
  cases ht'

end Timestamp

end ThreatGraph
