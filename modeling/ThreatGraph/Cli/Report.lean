import ThreatGraph.Conversion.Collection
import ThreatGraph.Loading.Summary

/-!
# Reports

What a command says about its work, line by line: sections of figures under a heading, lists, and
single messages. A quiet report leaves out the marks in front of headings and messages.

Reports are as they stand in a file: the colours of a theme and whatever moves on a terminal while a
command runs are left to the terminal.
-/

namespace ThreatGraph.Cli

/-- How reports are written. -/
structure Style where
  /-- whether marks are left out -/
  quiet : Bool

namespace Style

variable (style : Style)

/-- A line with a mark in front. -/
def marked (mark text : String) : String := if style.quiet then text else mark ++ " " ++ text

/-- A heading. -/
def heading (title : String) : String := style.marked "▸" title

/-- A piece of information. -/
def info (text : String) : String := style.marked "ℹ" text

/-- The news that all went well. -/
def success (text : String) : String := style.marked "✔" text

/-- A warning. -/
def warning (text : String) : String := style.marked "⚠" text

/-- Figures under a heading, their names aligned on the right. -/
def figures (title : String) (rows : List (String × String)) : List String :=
  let width := (rows.map fun row => row.1.length).foldl max 0
  style.heading title ::
    rows.map fun (name, value) =>
      "  " ++ String.ofList (List.replicate (width - name.length) ' ') ++ name ++ ": " ++ value

/-- A list under a heading; there is no heading for an empty one. -/
def list (title : String) (entries : List String) : List String :=
  if entries.isEmpty then [] else style.heading title :: entries.map fun entry => "  - " ++ entry

end Style

/-- A whole number of `unit`s, rounded from `n`; a half goes to the even neighbour. -/
def roundTo (unit n : Nat) : Nat :=
  let whole := n / unit
  let twice := 2 * (n % unit)
  if twice < unit ∨ (twice = unit ∧ whole % 2 = 0) then whole else whole + 1

/-- A span of time in nanoseconds: seconds with two decimals, or milliseconds below one second. -/
def duration (nanoseconds : Nat) : String :=
  if 1000000000 ≤ nanoseconds then
    let hundredths := roundTo 10000000 nanoseconds
    let digits := toString (hundredths % 100)
    toString (hundredths / 100) ++ "." ++ (if digits.length < 2 then "0" else "") ++ digits ++ "s"
  else toString (roundTo 1000000 nanoseconds) ++ "ms"

/-- The lines on what became of objects and of their statements, which went to `destination`. -/
def transformReport (style : Style) (destination : String) (c : Collection) (s : LoadSummary) :
    List String :=
  style.figures "Transform"
    [("objects", toString c.objects), ("failed objects", toString c.failures.length),
      ("skipped properties", toString c.skipped.length),
      ("entity statements", toString c.entities.length),
      ("relation statements", toString c.relations.length),
      ("embedded statements", toString c.embedded.length)] ++
  style.figures "Output"
    [("destination", destination), ("batches", toString s.batches),
      ("written", toString s.inserted), ("rejected", toString s.rejected)] ++
  style.list "Failed objects"
    (c.failures.map fun f => f.stixId.getD "<no id>" ++ ": " ++ f.defect.message) ++
  style.list "Skipped properties"
    (c.skipped.map fun (stixId, skipped) => stixId ++ " " ++ skipped.message)

/-- The warning for objects that failed because of the mapping. -/
def mappingWarning (style : Style) (c : Collection) : List String :=
  if c.failures.any fun f => f.defect.isMapping then
    [style.warning
      "some objects failed because of mapping defects; run `stixgraph check-mapping`"]
  else []

end ThreatGraph.Cli
