import ThreatGraph.Binary64.Numeral
import ThreatGraph.Json.Token
import ThreatGraph.Text.Cut

/-!
# TOML numbers

Integers are decimal with an optional sign, or hexadecimal, octal or binary without one. A number
with a point or an exponent has digits on both sides of the point. Single underscores may stand
between digits, and a decimal number has no zero in front.
-/

namespace ThreatGraph.Toml

/-- The digits of a number, which may have single underscores between them. -/
def digits? (isDigit : Char → Bool) (cs : List Char) : Option (List Char) :=
  let pieces := Text.pieces '_' cs
  if pieces.all fun piece => !piece.isEmpty && piece.all isDigit then some pieces.flatten else none

/-- The value of digits of a base below seventeen. -/
def valueOf (base : Nat) (digits : List Char) : Nat :=
  digits.foldl (fun n c => n * base + (Json.hexDigit? c).getD 0) 0

/-- Whether a character is a digit of a base below seventeen. -/
def isDigitOf (base : Nat) (c : Char) : Bool := (Json.hexDigit? c).any fun n => n < base

/-- A decimal integer without a sign: a zero in front is refused. -/
def decimal? (cs : List Char) : Option Nat :=
  (digits? Char.isDigit cs).bind fun digits =>
    if 1 < cs.length ∧ cs.head? = some '0' then none else some (Numeral.value digits)

/-- The integer that a word denotes. -/
def integer? : List Char → Option Int
  | '0' :: 'x' :: rest => (digits? (isDigitOf 16) rest).map fun digits => valueOf 16 digits
  | '0' :: 'o' :: rest => (digits? (isDigitOf 8) rest).map fun digits => valueOf 8 digits
  | '0' :: 'b' :: rest => (digits? (isDigitOf 2) rest).map fun digits => valueOf 2 digits
  | '-' :: rest => (decimal? rest).map fun n => -(n : Int)
  | '+' :: rest => (decimal? rest).map fun n => (n : Int)
  | cs => (decimal? cs).map fun n => (n : Int)

/-! ## Numbers with a point or an exponent -/

/-- Whether nothing or a point and digits stand there. -/
def isFraction : List Char → Bool
  | [] => true
  | '.' :: digits => (digits? Char.isDigit digits).isSome
  | _ => false

/-- Whether nothing or an exponent stands there, from its mark on. -/
def isExponent : List Char → Bool
  | [] => true
  | _ :: rest => (digits? Char.isDigit (Numeral.takeSign rest).2).isSome

/-- Whether a character begins an exponent. -/
def isExponentMark (c : Char) : Bool := c == 'e' || c == 'E'

/-- Whether a word is a number with a point or an exponent. It must not lie beyond the greatest
number, but may lie below the least one, where it is taken for minus infinity. -/
def isDecimalFraction (cs : List Char) : Bool :=
  let (negative, unsigned) := Numeral.takeSign cs
  let exponent := unsigned.dropWhile fun c => !isExponentMark c
  let number := unsigned.takeWhile fun c => !isExponentMark c
  let fraction := number.dropWhile fun c => c != '.'
  (decimal? (number.takeWhile fun c => c != '.')).isSome && isFraction fraction &&
    isExponent exponent && !(fraction.isEmpty && exponent.isEmpty) &&
    (negative || (Numeral.toBinary64? (cs.filter fun c => c != '_')).isSome)

/-- Whether a word is infinity or not-a-number, with or without a sign. -/
def isNotFinite (cs : List Char) : Bool :=
  let unsigned := (Numeral.takeSign cs).2
  unsigned == ['i', 'n', 'f'] || unsigned == ['n', 'a', 'n']

end ThreatGraph.Toml
