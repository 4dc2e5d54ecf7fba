import ThreatGraph.Binary64.Basic

/-!
# Numerals

A numeral is an optional sign, digits with an optional point among them or at either end, and an
optional exponent of ten. At least one digit stands before the exponent and one in it. A numeral
means the nearest number; one beyond the greatest number means none.
-/

namespace ThreatGraph.Numeral

/-- The value of a list of digits. -/
def value (digits : List Char) : Nat := Nat.ofDigitChars 10 digits 0

/-- A sign, if there is one, and what follows it. -/
def takeSign : List Char → Bool × List Char
  | '+' :: rest => (false, rest)
  | '-' :: rest => (true, rest)
  | cs => (false, cs)

/-- The exponent that the rest of a numeral states; a rest that states none is refused. -/
def exponent? : List Char → Option Int
  | [] => some 0
  | mark :: rest =>
    if mark = 'e' ∨ mark = 'E' then
      let (negative, digits) := takeSign rest
      if digits.isEmpty ∨ !digits.all Char.isDigit then none
      else some (if negative then -(value digits : Int) else value digits)
    else none

/-- The number that a numeral means. -/
def toBinary64? (cs : List Char) : Option Binary64 := do
  let (negative, cs) := takeSign cs
  let whole := cs.takeWhile Char.isDigit
  let afterWhole := cs.dropWhile Char.isDigit
  let (fraction, rest) :=
    match afterWhole with
    | '.' :: more => (more.takeWhile Char.isDigit, more.dropWhile Char.isDigit)
    | _ => ([], afterWhole)
  if (whole ++ fraction).isEmpty then none
  let exponent ← exponent? rest
  Binary64.ofDecimal? negative (value (whole ++ fraction)) (exponent - fraction.length)

/-- The integer that an optional sign and one or more digits denote. -/
def toInt? (cs : List Char) : Option Int :=
  let (negative, digits) := takeSign cs
  if digits.isEmpty ∨ !digits.all Char.isDigit then none
  else some (if negative then -(value digits : Int) else value digits)

end ThreatGraph.Numeral
