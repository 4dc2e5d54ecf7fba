import ThreatGraph.Binary64.Numeral
import ThreatGraph.Json.Basic
import ThreatGraph.Word

/-!
# Numbers in JSON texts

A number without point and exponent that fits 64 bits is an integer. Any other number is a
significand of 64 bits that is scaled by a power of ten. The significand takes digits as long as
they fit and the others are dropped; those dropped before the point count in the power.

Scaling works in binary64: the significand and the power are rounded first and their product or
quotient after that. So the number may lie beside the one that is nearest to its decimal, as
`9.223372036854775e18` does, which is read as `2 ^ 63`.
-/

namespace ThreatGraph.Json

/-- The greatest power of ten that is used at once. -/
def greatestPower : Nat := 308

/-- A power of ten as a number. -/
def powerOfTen? (n : Nat) : Option Binary64 := Binary64.ofRatio? false (Nat.pow 10 n) 1

/-- The number times a power of ten. Powers far below zero are applied in steps, and beyond the
greatest number there is none. -/
def scaled? (x : Binary64) (exponent : Int) : Option Binary64 :=
  if exponent.natAbs ≤ greatestPower then
    (powerOfTen? exponent.natAbs).bind fun power =>
      if 0 ≤ exponent then x.times? power else x.over? power
  else if x.mantissa = 0 then some x
  else if 0 < exponent then none
  else
    ((powerOfTen? greatestPower).bind fun power => x.over? power).bind fun smaller =>
      scaled? smaller (exponent + greatestPower)
termination_by exponent.natAbs
decreasing_by simp only [greatestPower] at *; omega

/-- The significand after more digits, which are taken as long as it fits 64 bits, and the digits
that are dropped. -/
def takeSignificant (significand : Nat) : List Char → Nat × List Char
  | [] => (significand, [])
  | c :: rest =>
    let next := significand * 10 + Numeral.value [c]
    if Word.fitsUnsigned next then takeSignificant next rest else (significand, c :: rest)

/-- The number with these digits before and after the point and this exponent. -/
def floatOf? (negative : Bool) (whole fraction : List Char) (exponent : Int) : Option Json :=
  let (significand, dropped) := takeSignificant 0 whole
  let (significand, unused) := takeSignificant significand fraction
  let taken := fraction.length - unused.length
  (Binary64.ofRatio? negative significand 1).bind fun x =>
    (scaled? x (dropped.length - taken + exponent)).map .float

/-- The number of digits without point and exponent: an integer if it fits 64 bits. Minus zero is
no integer. -/
def wholeNumber? (negative : Bool) (digits : List Char) : Option Json :=
  let n := Numeral.value digits
  if negative ∧ 0 < n ∧ Word.fitsSigned (-n) then some (.integer (-n))
  else if negative = false ∧ Word.fitsUnsigned n then some (.integer n)
  else floatOf? negative digits [] 0

/-- The number with these digits before and after the point and perhaps an exponent. Without
digits after a point and without an exponent it is a whole number. -/
def numberOf? (negative : Bool) (whole fraction : List Char) (exponent : Option Int) :
    Option Json :=
  if fraction.isEmpty ∧ exponent = none then wholeNumber? negative whole
  else floatOf? negative whole fraction (exponent.getD 0)

end ThreatGraph.Json
