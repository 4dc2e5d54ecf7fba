/-!
# White space

The white space of a text is what the Unicode property `White_Space` holds of: the controls from
tab to carriage return, the space, next line, the no-break space and the typographic spaces and
separators. Zero-width characters and the information separators are not white space.
-/

namespace ThreatGraph.Text

/-- Whether `c` has the Unicode property `White_Space`. -/
def isBlank (c : Char) : Bool :=
  let n := c.toNat
  (0x09 ≤ n && n ≤ 0x0d) || n == 0x20 || n == 0x85 || n == 0xa0 || n == 0x1680 ||
    (0x2000 ≤ n && n ≤ 0x200a) || n == 0x2028 || n == 0x2029 || n == 0x202f || n == 0x205f ||
    n == 0x3000

/-- The characters without the white space at both ends. -/
def trim (cs : List Char) : List Char :=
  ((cs.dropWhile isBlank).reverse.dropWhile isBlank).reverse

end ThreatGraph.Text
