import ThreatGraph.Toml.Basic
import ThreatGraph.Toml.Quoted

/-!
# Writing TOML

A document of sections: tables, each under its header, that hold values without parts. An empty
line stands between two sections. Names are written without quotes, so they must be of letters,
digits, underscores and hyphens.
-/

namespace ThreatGraph.Toml

/-- A section: its name and its entries in order. -/
structure Section where
  /-- the name of the table -/
  name : String
  /-- its entries -/
  entries : List (String × Scalar)

/-- The text of a value. -/
def Scalar.write : Scalar → List Char
  | .string text => Quoted.write text.toList
  | .integer n => (toString n).toList
  | .boolean flag => (if flag then "true" else "false").toList
  | .float text => text.toList
  | .moment text => text.toList

/-- The lines of a section. -/
def Section.write (s : Section) : List Char :=
  '[' :: (s.name.toList ++ ']' :: '\n' :: s.entries.flatMap fun entry =>
    entry.1.toList ++ ' ' :: '=' :: ' ' :: (entry.2.write ++ ['\n']))

/-- The lines of all sections. -/
def writeSections : List Section → List Char
  | [] => []
  | [only] => only.write
  | first :: next :: rest => first.write ++ '\n' :: writeSections (next :: rest)

end ThreatGraph.Toml
