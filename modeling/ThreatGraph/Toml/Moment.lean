import ThreatGraph.Timestamp

/-!
# TOML dates and times

A date, a time of day, or a date and a time with a `T` or a space between them, to which a
difference from universal time may belong. The date must exist in the calendar, and the time may
be in a leap second.
-/

namespace ThreatGraph.Toml

/-- What follows a date. -/
def afterDate? (cs : List Char) : Option (List Char) := Except.toOption do
  let (year, cs) ← Timestamp.takeNumber .year 4 0 9999 cs
  let cs ← Timestamp.takeMark '-' cs
  let (month, cs) ← Timestamp.takeNumber .month 2 1 12 cs
  let cs ← Timestamp.takeMark '-' cs
  let (day, cs) ← Timestamp.takeNumber .day 2 1 31 cs
  if Timestamp.monthLength year month < day then throw (.range .day)
  return cs

/-- What follows hours and minutes. -/
def afterMinutes? (cs : List Char) : Option (List Char) := Except.toOption do
  let (_, cs) ← Timestamp.takeNumber .hour 2 0 23 cs
  let cs ← Timestamp.takeMark ':' cs
  let (_, cs) ← Timestamp.takeNumber .minute 2 0 59 cs
  return cs

/-- What follows a fraction of a second, if there is one. -/
def afterFraction : List Char → List Char
  | '.' :: digit :: rest =>
    if digit.isDigit then rest.dropWhile Char.isDigit else '.' :: digit :: rest
  | cs => cs

/-- What follows a time of day. -/
def afterTime? (cs : List Char) : Option (List Char) :=
  (afterMinutes? cs).bind fun cs => Except.toOption do
    let cs ← Timestamp.takeMark ':' cs
    let (_, cs) ← Timestamp.takeNumber .second 2 0 60 cs
    return afterFraction cs

/-- Whether nothing or a difference from universal time stands there. -/
def isOffset : List Char → Bool
  | [] => true
  | ['Z'] => true
  | ['z'] => true
  | '+' :: rest => afterMinutes? rest == some []
  | '-' :: rest => afterMinutes? rest == some []
  | _ => false

/-- Whether a word is a date, a time or both. -/
def isMoment (cs : List Char) : Bool :=
  match afterDate? cs with
  | some [] => true
  | some (mark :: rest) =>
    (mark == 'T' || mark == 't' || mark == ' ') && (afterTime? rest).any isOffset
  | none => afterTime? cs == some []

end ThreatGraph.Toml
