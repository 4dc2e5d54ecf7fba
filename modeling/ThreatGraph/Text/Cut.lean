/-!
# Cutting text at a mark

Texts are cut at the first place where a mark stands; the mark itself belongs to neither part.
The work is done on character lists, the `String` functions are wrappers around it.
-/

namespace ThreatGraph.Text

/-- The characters before and after the first place where `mark` stands. -/
def cutList? (mark : List Char) : List Char → Option (List Char × List Char)
  | [] => if mark.isEmpty then some ([], []) else none
  | c :: rest =>
    match mark.isPrefixOf? (c :: rest) with
    | some after => some ([], after)
    | none => (cutList? mark rest).map fun parts => (c :: parts.1, parts.2)

/-- The text before and after the first place where `mark` stands. -/
def cut? (mark s : String) : Option (String × String) :=
  (cutList? mark.toList s.toList).map fun parts => (String.ofList parts.1, String.ofList parts.2)

/-- Whether `mark` stands somewhere in `s`. -/
def contains (mark s : String) : Bool := (cut? mark s).isSome

/-- The pieces between the places where `mark` stands: one more than there are marks. -/
def pieces (mark : Char) : List Char → List (List Char)
  | [] => [[]]
  | c :: rest =>
    if c = mark then [] :: pieces mark rest
    else
      match pieces mark rest with
      | [] => [[c]]
      | first :: others => (c :: first) :: others

/-- The names in ascending order of their characters' code points. -/
def sorted (names : List String) : List String := names.mergeSort fun a b => decide (a ≤ b)

/-- Writes `parts` one after the other with `mark` between neighbours. -/
def join (mark : String) (parts : List String) : String := mark.intercalate parts

end ThreatGraph.Text
