/-!
# Words of 64 bits

Which whole numbers fit into 64 bits, with a sign and without. The bounds are written out, so that
they are numerals wherever they stand.
-/

namespace ThreatGraph.Word

/-- The least number that fits with a sign, which is `-2 ^ 63`. -/
def least : Int := -9223372036854775808

/-- The greatest number that fits with a sign, which is `2 ^ 63 - 1`. -/
def greatest : Int := 9223372036854775807

/-- Whether an integer fits with a sign. -/
def fitsSigned (n : Int) : Bool := least ≤ n && n ≤ greatest

/-- Whether a natural number fits without a sign, that is below `2 ^ 64`. -/
def fitsUnsigned (n : Nat) : Bool := n < 18446744073709551616

end ThreatGraph.Word
