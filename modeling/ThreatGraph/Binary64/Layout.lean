import ThreatGraph.Binary64.Shortest

/-!
# How a number is written

A format writes the shortest decimal of a number either in full, with at least one digit on each
side of the point, or with an exponent of ten. Where the one ends and the other begins, how a
positive exponent is marked and how a tie between two shortest decimals goes are its decisions;
they are collected in one record.
-/

namespace ThreatGraph

/-- The decisions of a format on numbers. -/
structure Layout where
  /-- the least exponent of the first digit that is written in full -/
  least : Int
  /-- the greatest exponent of the first digit that is written in full -/
  greatest : Int
  /-- the mark of an exponent that is not negative -/
  plus : List Char
  /-- how a tie between two shortest decimals goes -/
  tie : Tie

namespace Decimal

/-- The decimal in full: the point after its units, zeros where it has no digits of its own. -/
def inFull (d : Decimal) : List Char :=
  if d.leading < 0 then
    '0' :: '.' :: (List.replicate (-d.leading - 1).toNat '0' ++ d.digits)
  else
    let units := d.leading.toNat + 1
    let whole := d.digits.take units ++ List.replicate (units - d.digits.length) '0'
    let rest := d.digits.drop units
    whole ++ '.' :: (if rest.isEmpty then ['0'] else rest)

/-- The decimal with an exponent: a point only where more than one digit is to be written. -/
def withExponent (plus : List Char) (d : Decimal) : List Char :=
  let coefficient :=
    match d.digits with
    | first :: second :: more => first :: '.' :: second :: more
    | short => short
  let sign := if d.leading < 0 then ['-'] else plus
  coefficient ++ 'e' :: (sign ++ Nat.toDigits 10 d.leading.natAbs)

end Decimal

/-- The number as the format writes it; zero is written in full. -/
def Layout.write (l : Layout) (x : Binary64) : List Char :=
  let body :=
    if x.mantissa = 0 then ['0', '.', '0']
    else
      let d := x.shortest l.tie
      if l.least ≤ d.leading ∧ d.leading ≤ l.greatest then d.inFull else d.withExponent l.plus
  if x.negative then '-' :: body else body

end ThreatGraph
