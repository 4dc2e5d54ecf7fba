import Mathlib.Tactic.IntervalCases
import ThreatGraph.Proofs.Digits
import ThreatGraph.Proofs.Naming

/-!
# Timestamps and the datetimes they are written as

A text may have the form of a timestamp (`TimestampForm`) and still state no instant: the month may
not be one of twelve, the day may not exist in its month, or the clock may not show such a time
(`TimestampForm.IsInstant`). Exactly the texts that state one are read, and they are written again
as they stood, without the mark of universal time and with the fraction cut to three digits
(`Timestamp.parse_form`).

A form is a record of digits. For every part there is a lemma that reads the digits of that part and
leaves what follows, and one that writes them from their value (`padded_digits`); the text as a
whole is read and written by going through the parts in order. The calendar is stated on its own
(`IsLeapYear`, `DayExists`) and compared with what is computed.
-/

namespace ThreatGraph

/-! ## Texts in the form of a timestamp -/

/-- A text of digits, at least `least` and at most `most` of them. -/
structure Digits (least most : Nat) where
  /-- the digits -/
  text : String
  /-- no other character is among them -/
  allDigits : AllDigits text.toList
  /-- there are enough of them -/
  least_le : least ≤ text.toList.length
  /-- and not too many -/
  le_most : text.toList.length ≤ most

/-- The number that digits denote. -/
def Digits.value {least most : Nat} (d : Digits least most) : Nat := Numeral.value d.text.toList

/-- A text of the form `YYYY-MM-DDThh:mm:ss[.f]Z`, by its parts. -/
structure TimestampForm where
  /-- `YYYY` -/
  year : Digits 4 4
  /-- `MM` -/
  month : Digits 2 2
  /-- `DD` -/
  day : Digits 2 2
  /-- `hh` -/
  hour : Digits 2 2
  /-- `mm` -/
  minute : Digits 2 2
  /-- `ss` -/
  second : Digits 2 2
  /-- `f`, if there is a fraction -/
  fraction : Option (Digits 1 32)

/-- The year has a 29th of February. -/
def IsLeapYear (year : Nat) : Prop := 4 ∣ year ∧ (100 ∣ year → 400 ∣ year)

/-- The month has the day, in the Gregorian calendar followed back to the year zero. -/
def DayExists (year month day : Nat) : Prop :=
  1 ≤ day ∧
    match month with
    | 1 | 3 | 5 | 7 | 8 | 10 | 12 => day ≤ 31
    | 4 | 6 | 9 | 11 => day ≤ 30
    | 2 => day ≤ 28 ∨ day = 29 ∧ IsLeapYear year
    | _ => False

namespace TimestampForm

variable (w : TimestampForm)

/-- The text without the fraction and the mark at its end. -/
def stem : String :=
  w.year.text ++ "-" ++ w.month.text ++ "-" ++ w.day.text ++
    "T" ++ w.hour.text ++ ":" ++ w.minute.text ++ ":" ++ w.second.text

/-- The text. -/
def text : String :=
  match w.fraction with
  | none => w.stem ++ "Z"
  | some f => w.stem ++ "." ++ f.text ++ "Z"

/-- The first three digits of the fraction; zeros stand for those that it does not have. -/
def thousandths? : Option String :=
  w.fraction.map fun f => String.ofList ((f.text.toList ++ ['0', '0', '0']).take 3)

/-- The text with the fraction cut to three digits, and without the mark at its end. -/
def datetime : String :=
  match w.thousandths? with
  | none => w.stem
  | some digits => w.stem ++ "." ++ digits

/-- The text states an instant. -/
structure IsInstant : Prop where
  month : 1 ≤ w.month.value ∧ w.month.value ≤ 12
  day : DayExists w.year.value w.month.value w.day.value
  hour : w.hour.value ≤ 23
  minute : w.minute.value ≤ 59
  second : w.second.value ≤ 59

/-- The instant that the text states. -/
def instant : Timestamp where
  year := w.year.value
  month := w.month.value
  day := w.day.value
  hour := w.hour.value
  minute := w.minute.value
  second := w.second.value
  nanosecond := w.fraction.elim 0 fun f => Timestamp.nanosecondsOf f.text.toList
  fractional := w.fraction.isSome

end TimestampForm

/-! ## Reading parts -/

namespace Timestamp

variable {width most least greatest : Nat} {part : TimePart} {rest : List Char}

/-- Digits of the right width are read as their value, if that is within the bounds. -/
theorem takeNumber_bind_eq_ok {α : Type} (d : Digits width width)
    {next : Nat × List Char → Except TimestampDefect α} {a : α} :
    (takeNumber part width least greatest (d.text.toList ++ rest) >>= next) = .ok a ↔
      (least ≤ d.value ∧ d.value ≤ greatest) ∧ next (d.value, rest) = .ok a := by
  have hlength : d.text.toList.length = width := Nat.le_antisymm d.le_most d.least_le
  have htake : (d.text.toList ++ rest).take width = d.text.toList := List.take_left' hlength
  have hdrop : (d.text.toList ++ rest).drop width = rest := List.drop_left' hlength
  simp only [takeNumber, htake, hdrop, hlength, d.allDigits.all, true_and]
  change (ite (least ≤ d.value ∧ d.value ≤ greatest) _ _ >>= next) = _ ↔ _
  split
  · next hrange => exact (and_iff_right hrange).symm
  · next hrange => exact iff_of_false (fun h => by cases h) fun h => hrange h.1

theorem takeSign_digits (d : Digits (width + 1) most) :
    Numeral.takeSign (d.text.toList ++ rest) = (false, d.text.toList ++ rest) := by
  have hlength := d.least_le
  cases hdigits : d.text.toList with
  | nil => simp [hdigits] at hlength
  | cons c more =>
    have hc : c.isDigit = true := d.allDigits c (by simp [hdigits])
    rw [List.cons_append, Numeral.takeSign]
    all_goals
    · intro others heq
      obtain ⟨rfl, -⟩ := List.cons.inj heq
      exact absurd hc (by decide)

theorem takeYear_digits (d : Digits 4 4) :
    takeYear (d.text.toList ++ rest) = .ok ((d.value : Int), rest) := by
  have hlength : d.text.toList.length = 4 := Nat.le_antisymm d.le_most d.least_le
  have hvalue := Numeral.value_lt d.allDigits
  rw [hlength] at hvalue
  rw [takeYear, takeSign_digits]
  exact (takeNumber_bind_eq_ok d).mpr ⟨⟨Nat.zero_le _, Nat.le_of_lt_succ hvalue⟩, rfl⟩

theorem takeMark_self (mark : Char) (rest : List Char) : takeMark mark (mark :: rest) = .ok rest :=
  if_pos rfl

/-- The digits of a fraction are read up to the mark of the zone. -/
theorem takeSubsecond_digits (d : Digits 1 32) : takeSubsecond (d.text.toList ++ 'Z' :: rest) =
    .ok (nanosecondsOf d.text.toList, 'Z' :: rest) := by
  have hdigits : ((d.text.toList ++ 'Z' :: rest).take 32).takeWhile Char.isDigit =
      d.text.toList := by
    rw [List.take_append, List.take_of_length_le d.le_most,
      List.takeWhile_append_of_pos d.allDigits]
    cases 32 - d.text.toList.length with
    | zero => simp
    | succ n => simp [show ('Z').isDigit = false by decide]
  have hempty : d.text.toList.isEmpty = false := by
    simpa using List.ne_nil_of_length_pos d.least_le
  simp [takeSubsecond, hdigits, hempty]

/-! ## Which days exist -/

/-- A year is a leap year as the calendar has it. -/
theorem isLeap_iff (year : Nat) : isLeap year = true ↔ IsLeapYear year := by
  simp only [isLeap, decide_eq_true_eq, IsLeapYear]
  omega

/-- A day exists if no bound of the reader excludes it. -/
theorem dayExists_iff {year month day : Nat} (hmonth : 1 ≤ month ∧ month ≤ 12) :
    DayExists year month day ↔ (1 ≤ day ∧ day ≤ 31) ∧ ¬monthLength year month < day := by
  obtain ⟨hleast, hgreatest⟩ := hmonth
  by_cases hleap : IsLeapYear year
  · have hlength : isLeap year = true := (isLeap_iff year).mpr hleap
    interval_cases month <;> simp [DayExists, monthLength, hleap, hlength] <;> omega
  · have hlength : isLeap year = false := by simpa using mt (isLeap_iff year).mp hleap
    interval_cases month <;> simp [DayExists, monthLength, hleap, hlength] <;> omega

/-! ## Reading a whole text -/

/-- A check is passed if what it looks for is not the case. -/
theorem check_eq_ok {ε α β : Type} {p : Prop} [Decidable p] {e : ε} {refused : α → Except ε β}
    {passed : Except ε β} {b : β} :
    (if p then throw e >>= refused else passed) = .ok b ↔ ¬p ∧ passed = .ok b := by
  split
  · next hp => exact iff_of_false (fun h => by cases h) fun h => h.1 hp
  · next hp => exact (and_iff_right hp).symm

variable (w : TimestampForm)

/-- The characters of the text, in the order in which they are read. -/
theorem toList_text : w.text.toList =
    w.year.text.toList ++ '-' :: (w.month.text.toList ++ '-' :: (w.day.text.toList ++
      'T' :: (w.hour.text.toList ++ ':' :: (w.minute.text.toList ++ ':' ::
        (w.second.text.toList ++
          (match w.fraction with
            | none => ['Z']
            | some f => '.' :: (f.text.toList ++ ['Z']))))))) := by
  rw [TimestampForm.text]
  cases w.fraction <;> simp [TimestampForm.stem]

/-- A point stands in a fraction only. -/
theorem contains_point : w.text.toList.contains '.' = w.fraction.isSome := by
  have hnone {n m : Nat} (d : Digits n m) : '.' ∉ d.text.toList := d.allDigits.not_mem (by decide)
  rw [toList_text]
  cases w.fraction with
  | none => simp [hnone]
  | some f => simp

/-- The bounds of all parts, and the checks that come last. -/
theorem isInstant_iff : w.IsInstant ↔
    (1 ≤ w.month.value ∧ w.month.value ≤ 12) ∧ (1 ≤ w.day.value ∧ w.day.value ≤ 31) ∧
      (0 ≤ w.hour.value ∧ w.hour.value ≤ 23) ∧ (0 ≤ w.minute.value ∧ w.minute.value ≤ 59) ∧
      (0 ≤ w.second.value ∧ w.second.value ≤ 60) ∧
      ¬monthLength w.year.value w.month.value < w.day.value ∧ ¬w.second.value = 60 := by
  constructor
  · rintro ⟨hmonth, hday, hhour, hminute, hsecond⟩
    obtain ⟨hbounds, hlength⟩ := (dayExists_iff hmonth).mp hday
    exact ⟨hmonth, hbounds, ⟨Nat.zero_le _, hhour⟩, ⟨Nat.zero_le _, hminute⟩, by omega, hlength,
      by omega⟩
  · rintro ⟨hmonth, hbounds, ⟨-, hhour⟩, ⟨-, hminute⟩, hsecond, hlength, hleap⟩
    exact ⟨hmonth, (dayExists_iff hmonth).mpr ⟨hbounds, hlength⟩, hhour, hminute, by omega⟩

/-- Exactly the texts that state an instant are read, and as that instant. -/
theorem parse_eq_ok (t : Timestamp) : parse w.text = .ok t ↔ w.IsInstant ∧ w.instant = t := by
  rw [parse, parseList, contains_point, toList_text, isInstant_iff]
  cases hfraction : w.fraction with
  | none =>
    simp only [takeYear_digits, except_ok_bind, takeMark_self, takeNumber_bind_eq_ok,
      Option.isSome_none, Bool.false_eq_true, if_false, pure_bind, List.isEmpty_nil, Bool.not_true,
      check_eq_ok, and_assoc, TimestampForm.instant, hfraction, Option.elim_none]
    simp only [pure, Except.pure, Except.ok.injEq]
  | some f =>
    simp only [takeYear_digits, except_ok_bind, takeMark_self, takeNumber_bind_eq_ok,
      Option.isSome_some, if_true, takeSubsecond_digits, List.isEmpty_nil,
      Bool.not_true, Bool.false_eq_true, if_false, check_eq_ok, and_assoc, TimestampForm.instant,
      hfraction, Option.elim_some]
    simp only [pure, Except.pure, Except.ok.injEq]

/-! ## Writing what was read -/

/-- Digits are written as they were read, with their zeros. -/
theorem padded_digits (d : Digits (width + 1) (width + 1)) :
    padded (width + 1) d.value = d.text.toList := by
  have hlength : d.text.toList.length = width + 1 := Nat.le_antisymm d.le_most d.least_le
  have hempty : d.text.toList ≠ [] := List.ne_nil_of_length_pos (by omega)
  have hpadded := padded_value hempty d.allDigits
  rwa [hlength] at hpadded

/-- A year of four digits is written as it was read. -/
theorem writeYear_digits (d : Digits 4 4) : writeYear (d.value : Int) = d.text.toList := by
  rw [writeYear, if_neg (by omega), Int.natAbs_natCast, padded_digits]

/-- Of nine digits, the first three count milliseconds. -/
theorem millis_digits {digits : List Char} (h : AllDigits digits) :
    nanosecondsOf digits / 1000000 = Numeral.value ((digits ++ ['0', '0', '0']).take 3) := by
  let nine := digits.take 9 ++ List.replicate (9 - digits.length) '0'
  have hnine : AllDigits nine := (h.take 9).append (.zeros _)
  have hfirst : nine.take 3 = (digits ++ ['0', '0', '0']).take 3 := by
    have hzeros : ['0', '0', '0'] = List.replicate 3 '0' := rfl
    have hcount : min (3 - min 9 digits.length) (9 - digits.length) =
        min (3 - digits.length) 3 := by omega
    simp only [nine, hzeros, List.take_append, List.take_take, List.take_replicate,
      List.length_take, hcount]
    rfl
  have hothers : (nine.drop 3).length = 6 := by
    simp only [nine, List.length_drop, List.length_append, List.length_take, List.length_replicate]
    omega
  have hrest : AllDigits (nine.drop 3) := fun c hc => hnine c (List.mem_of_mem_drop hc)
  have hdiv := Numeral.value_append_div hrest (nine.take 3)
  rw [List.take_append_drop, hothers, hfirst] at hdiv
  exact hdiv

/-- The thousandths that are written are the first three digits of the fraction, filled up by zeros.
-/
theorem padded_thousandths (f : Digits 1 32) :
    padded 3 (nanosecondsOf f.text.toList / 1000000) =
      (f.text.toList ++ ['0', '0', '0']).take 3 := by
  have hzeros : AllDigits ['0', '0', '0'] := AllDigits.zeros 3
  have hlength : ((f.text.toList ++ ['0', '0', '0']).take 3).length = 3 := by
    simp
  have hempty : (f.text.toList ++ ['0', '0', '0']).take 3 ≠ [] :=
    List.ne_nil_of_length_pos (by omega)
  have hpadded := padded_value hempty ((f.allDigits.append hzeros).take 3)
  rwa [hlength, ← millis_digits f.allDigits] at hpadded

/-- The milliseconds of an instant are the first three digits of its fraction, if it has one. -/
theorem millis_instant :
    w.instant.millis = w.thousandths?.map fun digits => Numeral.value digits.toList := by
  rw [millis, TimestampForm.instant, TimestampForm.thousandths?]
  cases w.fraction with
  | none => rfl
  | some f => simp [millis_digits f.allDigits]

/-- An instant is written as the datetime of its text. -/
theorem literal_instant : w.instant.literal = w.datetime := by
  have hmillis := millis_instant w
  rw [literal, literalList, hmillis, TimestampForm.datetime, TimestampForm.thousandths?]
  refine String.toList_inj.mp ?_
  cases hfraction : w.fraction with
  | none =>
    simp [TimestampForm.instant, TimestampForm.stem, writeYear_digits, padded_digits]
  | some f =>
    have hthousandths := padded_thousandths f
    rw [millis_digits f.allDigits] at hthousandths
    simp [TimestampForm.instant, TimestampForm.stem, writeYear_digits, padded_digits, hthousandths]

/-- **Timestamps are read and written on their grammar.** A text of the form
`YYYY-MM-DDThh:mm:ss[.f]Z`, whatever its digits, is read exactly if it states an instant: the month
is one of twelve, it has the day in the Gregorian calendar, and the clock can show the time. The
instant is written as the text stands, without the mark at its end and with exactly the first three
digits of the fraction, zeros taking the place of those that are missing; these three count its
milliseconds. Without a fraction none is written, and there are no milliseconds. -/
theorem parse_form (w : TimestampForm) :
    ((∃ t, parse w.text = .ok t) ↔ w.IsInstant) ∧
      ∀ t, parse w.text = .ok t → t.literal = w.datetime ∧
        t.millis = w.thousandths?.map fun digits => Numeral.value digits.toList := by
  refine ⟨⟨fun ⟨t, h⟩ => ((parse_eq_ok w t).mp h).1, fun h => ?_⟩, fun t h => ?_⟩
  · exact ⟨w.instant, (parse_eq_ok w _).mpr ⟨h, rfl⟩⟩
  · obtain ⟨-, rfl⟩ := (parse_eq_ok w t).mp h
    exact ⟨literal_instant w, millis_instant w⟩

-- a century that is divisible by 400 has a leap day, and digits are cut, not rounded
example : ((parse "2000-02-29T23:59:59.9996Z").toOption.map literal,
    (parse "1900-02-29T23:59:59.9996Z").toOption.map literal) =
      (some "2000-02-29T23:59:59.999", none) := by decide

end Timestamp

end ThreatGraph
