import ThreatGraph.Text.LetterCase

/-!
# Lower-casing

Full lower-casing of a text: every letter by its simple mapping, with two exceptions. The capital
I with a dot above becomes two characters, and a capital sigma at the end of a word becomes the
final sigma. A word ends at a sigma when a letter with a case comes before it and none after it,
where marks and inner punctuation on either side are looked through.
-/

namespace ThreatGraph.Text

/-- Whether `n` lies in one of the ranges. -/
def inRanges (ranges : List (Nat × Nat)) (n : Nat) : Bool :=
  ranges.any fun range => range.1 ≤ n && n ≤ range.2

/-- Whether `n` is one of the code points of the run. -/
def LowerRun.contains (run : LowerRun) (n : Nat) : Bool :=
  run.first ≤ n && n ≤ run.last && (n - run.first) % run.step == 0

/-- The simple lower-case mapping of one character. -/
def lowerChar (c : Char) : Char :=
  match lowerRuns.find? (·.contains c.toNat) with
  | some run => Char.ofNat (c.toNat + run.shift).toNat
  | none => c

/-- Whether the first character that is not looked through has a case. -/
def meetsCased (cs : List Char) : Bool :=
  match cs.dropWhile fun c => inRanges ignorableRanges c.toNat with
  | [] => false
  | c :: _ => inRanges casedRanges c.toNat

/-- Lower-cases characters; `before` holds what came before them, the nearest first. -/
def lowerList (before : List Char) : List Char → List Char
  | [] => []
  | c :: rest =>
    let lowered :=
      if c = 'Σ' then [if meetsCased before && !meetsCased rest then 'ς' else 'σ']
      else if c = 'İ' then ['i', '\u0307']
      else [lowerChar c]
    lowered ++ lowerList (c :: before) rest

/-- The text in lower case. -/
def lowercase (s : String) : String := String.ofList (lowerList [] s.toList)

end ThreatGraph.Text
