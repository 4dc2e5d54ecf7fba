/-!
# Finite binary64 numbers

A number of the IEEE format binary64 is kept as its sign, a whole mantissa and an exponent of
two, so every question about it is one about whole numbers. Infinities and not-a-number have no
place here: whatever would produce them answers `none`.

A quotient of naturals is rounded to the nearest such number, a half to the even mantissa, and
decimals and integers enter through that one function.
-/

namespace ThreatGraph

/-- The number `± mantissa · 2 ^ exponent`. -/
structure Binary64 where
  /-- whether the sign is a minus; zero has a sign too -/
  negative : Bool
  /-- below `2 ^ 53` -/
  mantissa : Nat
  /-- from `-1074` to `971`, and `-1074` whenever the mantissa is below `2 ^ 52` -/
  exponent : Int
  deriving DecidableEq, Repr

namespace Binary64

/-- The exponent of the smallest positive number. -/
def minExponent : Int := -1074

/-- The exponent of the greatest number. -/
def maxExponent : Int := 971

/-- The least mantissa beside an exponent that is not the least one: `2 ^ 52`. Mantissas are below
its double. -/
def leastNormal : Nat := 4503599627370496

/-- Zero with the given sign. -/
def zero (negative : Bool) : Binary64 := ⟨negative, 0, minExponent⟩

/-- The whole number nearest to `num / den`; a half goes to the even neighbour. -/
def roundHalfEven (num den : Nat) : Nat :=
  let whole := num / den
  let twice := 2 * (num % den)
  if twice < den then whole
  else if den < twice then whole + 1
  else if whole % 2 = 0 then whole
  else whole + 1

/-- The quotient `num / den / 2 ^ power` as a quotient of naturals. -/
def scaleDown (num den : Nat) (power : Int) : Nat × Nat :=
  (num <<< (-power).toNat, den <<< power.toNat)

/-- The exponent at which `num / den` has a mantissa of 53 bits, or the least exponent there is. -/
def lastBit (num den : Nat) : Int :=
  let leading : Int := (Nat.log2 num : Int) - (Nat.log2 den : Int)
  let (n, d) := scaleDown num den leading
  max ((if n < d then leading - 1 else leading) - 52) minExponent

/-- The number nearest to `± num / den`, unless it is beyond the greatest one. -/
def ofRatio? (negative : Bool) (num den : Nat) : Option Binary64 :=
  if num = 0 then some (zero negative)
  else
    let exponent := lastBit num den
    let (n, d) := scaleDown num den exponent
    let rounded := roundHalfEven n d
    let (mantissa, exponent) :=
      if rounded = 2 * leastNormal then (leastNormal, exponent + 1) else (rounded, exponent)
    if maxExponent < exponent then none else some ⟨negative, mantissa, exponent⟩

/-- The number nearest to `± digits · 10 ^ exponent`. A decimal of a size that is clearly out of
range is settled by its magnitude, so that no huge power of ten is ever computed. -/
def ofDecimal? (negative : Bool) (digits : Nat) (exponent : Int) : Option Binary64 :=
  let magnitude := exponent + (Nat.toDigits 10 digits).length
  if digits = 0 ∨ magnitude < -330 then some (zero negative)
  else if 310 < magnitude then none
  else ofRatio? negative (digits * Nat.pow 10 exponent.toNat) (Nat.pow 10 (-exponent).toNat)

/-- The number nearest to the product, unless it is beyond the greatest one. -/
def times? (x y : Binary64) : Option Binary64 :=
  let (num, den) := scaleDown (x.mantissa * y.mantissa) 1 (-(x.exponent + y.exponent))
  ofRatio? (x.negative ^^ y.negative) num den

/-- The number nearest to the quotient, unless it is beyond the greatest one. The divisor must not
be zero. -/
def over? (x y : Binary64) : Option Binary64 :=
  let (num, den) := scaleDown x.mantissa y.mantissa (y.exponent - x.exponent)
  ofRatio? (x.negative ^^ y.negative) num den

/-- The number nearest to an integer. -/
def ofInt? (n : Int) : Option Binary64 := ofRatio? (decide (n < 0)) n.natAbs 1

/-- The integer that the number is, if it is one. -/
def toInt? (x : Binary64) : Option Int :=
  let num := x.mantissa <<< x.exponent.toNat
  let den := 1 <<< (-x.exponent).toNat
  if num % den = 0 then
    some (if x.negative then -(num / den : Nat) else (num / den : Nat))
  else none

end Binary64

end ThreatGraph
