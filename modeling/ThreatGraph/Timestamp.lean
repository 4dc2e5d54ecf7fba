import ThreatGraph.Binary64.Numeral

/-!
# Timestamps

A STIX timestamp names an instant in universal time: a calendar day, a time of day and perhaps a
fraction of a second. The calendar is the proleptic Gregorian one, with a year zero and years
before it.

`Timestamp.parse` reads component after component and says which of them failed first; whether
the day exists in its month is asked only after the whole text has been read. `literal` writes
the instant as a datetime of the target language: milliseconds at most, and none if the source
stated no fraction.
-/

namespace ThreatGraph

/-- A component of a timestamp. -/
inductive TimePart where
  | year
  | month
  | day
  | hour
  | minute
  | second
  | subsecond
  deriving DecidableEq, Repr

/-- Why a text is no timestamp. -/
inductive TimestampDefect where
  /-- the component is missing, malformed or out of its range -/
  | component (part : TimePart)
  /-- a separator is missing -/
  | separator
  /-- something follows the last character -/
  | trailing
  /-- the component has no such value in this month or minute -/
  | range (part : TimePart)
  deriving DecidableEq, Repr

/-- The name of the component. -/
def TimePart.label : TimePart → String
  | .year => "year"
  | .month => "month"
  | .day => "day"
  | .hour => "hour"
  | .minute => "minute"
  | .second => "second"
  | .subsecond => "subsecond"

/-- The defect in words. -/
def TimestampDefect.message : TimestampDefect → String
  | .component part => "the '" ++ part.label ++ "' component could not be parsed"
  | .separator => "a character literal was not valid"
  | .trailing => "unexpected trailing characters; the end of input was expected"
  | .range part => part.label ++ " was not in range"

/-- An instant as a calendar day and a time of day. -/
structure Timestamp where
  /-- the year; zero and negative years come before the common era -/
  year : Int
  /-- from 1 to 12 -/
  month : Nat
  /-- from 1 to the length of the month -/
  day : Nat
  /-- from 0 to 23 -/
  hour : Nat
  /-- from 0 to 59 -/
  minute : Nat
  /-- from 0 to 59 -/
  second : Nat
  /-- from 0 to 999999999 -/
  nanosecond : Nat
  /-- whether the source stated a fraction of a second -/
  fractional : Bool
  deriving DecidableEq, Repr

namespace Timestamp

/-! ## The calendar -/

/-- Whether the year has a 29th of February. -/
def isLeap (year : Int) : Bool := year % 4 = 0 ∧ (year % 100 ≠ 0 ∨ year % 400 = 0)

/-- The number of days of a month. -/
def monthLength (year : Int) (month : Nat) : Nat :=
  if month = 2 then (if isLeap year then 29 else 28)
  else if month = 4 ∨ month = 6 ∨ month = 9 ∨ month = 11 then 30
  else 31

/-- The number of days from the first of January of the year 1 to that of `year`. -/
def daysBeforeYear (year : Int) : Int :=
  let past := year - 1
  365 * past + past / 4 - past / 100 + past / 400

/-- The number of days of the year before `month`. -/
def daysBeforeMonth (year : Int) : Nat → Nat
  | 0 => 0
  | 1 => 0
  | earlier + 2 => daysBeforeMonth year (earlier + 1) + monthLength year (earlier + 1)

/-- The number of days from the first of January 1970. -/
def dayNumber (t : Timestamp) : Int :=
  daysBeforeYear t.year + daysBeforeMonth t.year t.month + t.day - 1 - daysBeforeYear 1970

/-- Nanoseconds since the beginning of the year 1970. -/
def instant (t : Timestamp) : Int :=
  (((t.dayNumber * 24 + t.hour) * 60 + t.minute) * 60 + t.second) * 1000000000 + t.nanosecond

/-- Milliseconds of the second, when the source stated a fraction. -/
def millis (t : Timestamp) : Option Nat :=
  if t.fractional then some (t.nanosecond / 1000000) else none

/-! ## Reading -/

/-- A number of exactly `width` digits between `least` and `greatest`. -/
def takeNumber (part : TimePart) (width least greatest : Nat) (cs : List Char) :
    Except TimestampDefect (Nat × List Char) :=
  let digits := cs.take width
  let n := Numeral.value digits
  if digits.length = width ∧ digits.all Char.isDigit ∧ least ≤ n ∧ n ≤ greatest then
    .ok (n, cs.drop width)
  else .error (.component part)

/-- A year: an optional sign and exactly four digits. -/
def takeYear (cs : List Char) : Except TimestampDefect (Int × List Char) := do
  let (negative, cs) := Numeral.takeSign cs
  let (n, cs) ← takeNumber .year 4 0 9999 cs
  return (if negative then -(n : Int) else n, cs)

/-- The separator `mark`. -/
def takeMark (mark : Char) : List Char → Except TimestampDefect (List Char)
  | c :: rest => if c = mark then .ok rest else .error .separator
  | [] => .error .separator

/-- Nanoseconds from the digits of a fraction: the first nine count. -/
def nanosecondsOf (digits : List Char) : Nat :=
  Numeral.value (digits.take 9 ++ List.replicate (9 - digits.length) '0')

/-- A fraction of a second: one to thirty-two digits. -/
def takeSubsecond (cs : List Char) : Except TimestampDefect (Nat × List Char) :=
  let digits := (cs.take 32).takeWhile Char.isDigit
  if digits.isEmpty then .error (.component .subsecond)
  else .ok (nanosecondsOf digits, cs.drop digits.length)

/-- Reads the components of a timestamp. A text with a point in it states a fraction. -/
def parseList (cs : List Char) : Except TimestampDefect Timestamp := do
  let fractional := cs.contains '.'
  let (year, cs) ← takeYear cs
  let cs ← takeMark '-' cs
  let (month, cs) ← takeNumber .month 2 1 12 cs
  let cs ← takeMark '-' cs
  let (day, cs) ← takeNumber .day 2 1 31 cs
  let cs ← takeMark 'T' cs
  let (hour, cs) ← takeNumber .hour 2 0 23 cs
  let cs ← takeMark ':' cs
  let (minute, cs) ← takeNumber .minute 2 0 59 cs
  let cs ← takeMark ':' cs
  let (second, cs) ← takeNumber .second 2 0 60 cs
  let (nanosecond, cs) ←
    if fractional then do
      let cs ← takeMark '.' cs
      takeSubsecond cs
    else pure (0, cs)
  let cs ← takeMark 'Z' cs
  if !cs.isEmpty then throw .trailing
  if monthLength year month < day then throw (.range .day)
  if second = 60 then throw (.range .second)
  return { year, month, day, hour, minute, second, nanosecond, fractional }

/-- The timestamp that a text states. -/
def parse (raw : String) : Except TimestampDefect Timestamp := parseList raw.toList

/-! ## Writing -/

/-- A number in at least `width` digits. -/
def padded (width n : Nat) : List Char :=
  let digits := Nat.toDigits 10 n
  List.replicate (width - digits.length) '0' ++ digits

/-- A year in at least four characters, a minus sign being one of them. -/
def writeYear (year : Int) : List Char :=
  if year < 0 then '-' :: padded 3 year.natAbs else padded 4 year.natAbs

/-- The characters of the datetime literal. -/
def literalList (t : Timestamp) : List Char :=
  writeYear t.year ++ '-' :: padded 2 t.month ++ '-' :: padded 2 t.day ++
    'T' :: padded 2 t.hour ++ ':' :: padded 2 t.minute ++ ':' :: padded 2 t.second ++
    match t.millis with
    | some n => '.' :: padded 3 n
    | none => []

/-- The datetime literal of the instant. -/
def literal (t : Timestamp) : String := String.ofList t.literalList

end Timestamp

end ThreatGraph
