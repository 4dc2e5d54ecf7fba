import ThreatGraph.Binary64.Basic

/-!
# The shortest decimal that reads back

Every number is surrounded by an interval of reals that round to it. The shortest decimal is the
one of fewest digits in that interval, and among those the one nearest to the number. For each
count of digits only two decimals can be meant, the neighbours of the number on the grid of that
many digits; they are tested exactly, over the naturals.

Two neighbours can be equally near. Which of them is taken is a matter of the format that is
written, so it is a parameter.
-/

namespace ThreatGraph

/-- What becomes of a decimal that lies in the middle of two candidates. -/
inductive Tie where
  /-- it goes to the candidate with an even last digit -/
  | even
  /-- it goes to the greater candidate -/
  | up
  deriving DecidableEq, Repr

/-- A decimal `d₁.d₂… · 10 ^ leading`, by its digits and the exponent of the first of them. -/
structure Decimal where
  /-- the digits, the first of them not zero -/
  digits : List Char
  /-- the power of ten that the first digit counts -/
  leading : Int
  deriving DecidableEq, Repr

namespace Binary64

/-- The exponent of the first decimal digit of `num / den`, for a positive quotient. -/
def leadingExponent (num den : Nat) : Int :=
  if den ≤ num then ((Nat.toDigits 10 (num / den)).length : Int) - 1
  else -((Nat.toDigits 10 ((den + num - 1) / num - 1)).length : Int)

/-- The interval of a number in quarters of its last bit: lower end, number and upper end. Below a
power of two the numbers lie twice as close, so the lower end is nearer there. -/
def quarters (x : Binary64) : Nat × Nat × Nat :=
  let middle := 4 * x.mantissa
  let lower :=
    if x.mantissa = leastNormal ∧ minExponent < x.exponent then middle - 1 else middle - 2
  (lower, middle, middle + 2)

/-- The decimal of the multiple `count` of `10 ^ power`. -/
def decimalOf (count : Nat) (power : Int) : Decimal :=
  let digits := Nat.toDigits 10 count
  ⟨(digits.reverse.dropWhile (· = '0')).reverse, power + digits.length - 1⟩

/-- The multiple of `10 ^ power` that reads back as `x` and is nearest to it, if there is one. -/
def nearestOnGrid? (tie : Tie) (x : Binary64) (power : Int) : Option Nat :=
  let (lower, middle, upper) := x.quarters
  let unit := Nat.pow 10 (-power).toNat <<< (x.exponent - 2).toNat
  let step := Nat.pow 10 power.toNat <<< (2 - x.exponent).toNat
  let closed := x.mantissa % 2 = 0
  let readsBack (count : Nat) : Bool :=
    let place := count * step
    if closed then lower * unit ≤ place && place ≤ upper * unit
    else lower * unit < place && place < upper * unit
  let below := middle * unit / step
  let above := below + 1
  match readsBack below, readsBack above with
  | false, false => none
  | true, false => some below
  | false, true => some above
  | true, true =>
    let twice := 2 * (middle * unit)
    let centre := (below + above) * step
    if twice < centre then some below
    else if centre < twice then some above
    else
      match tie with
      | .even => some (if below % 2 = 0 then below else above)
      | .up => some above

/-- The shortest decimal that reads back as a number other than zero. Seventeen digits always
read back. -/
def shortest (tie : Tie) (x : Binary64) : Decimal :=
  let (_, middle, _) := x.quarters
  let leading := leadingExponent (middle <<< (x.exponent - 2).toNat) (1 <<< (2 - x.exponent).toNat)
  let found := (List.range 17).findSome? fun (k : Nat) =>
    let power := leading - k
    (nearestOnGrid? tie x power).map fun count => decimalOf count power
  found.getD ⟨[], leading⟩

end Binary64

end ThreatGraph
