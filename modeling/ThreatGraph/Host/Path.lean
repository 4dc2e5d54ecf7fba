import ThreatGraph.Text.Cut

/-!
# Paths

A path is a text of names with slashes between them. Empty names and names of a single point say
nothing, but for a point in front.
-/

namespace ThreatGraph.Path

/-- The path of `name` in the directory `base`. -/
def join (base name : String) : String :=
  if base.isEmpty then name
  else if base.toList.getLast? = some '/' then base ++ name
  else base ++ "/" ++ name

/-- Whether the path starts at the root. -/
def isAbsolute (path : String) : Bool := path.toList.head? = some '/'

/-- The names of a path. -/
def names (path : String) : List String := (Text.pieces '/' path.toList).map String.ofList

/-- Drops what says nothing at the end of a path, which is given from its end. -/
def dropIdle : List Char → List Char
  | ['/'] => ['/']
  | '/' :: rest => dropIdle rest
  | ['.', '/'] => ['/']
  | '.' :: '/' :: rest => dropIdle rest
  | path => path

/-- The directory that a path lies in. It is empty for a single name, and there is none for the
root and for an empty path. -/
def parent? (path : String) : Option String :=
  match dropIdle path.toList.reverse with
  | [] => none
  | ['/'] => none
  | reversed => some (String.ofList (dropIdle (reversed.dropWhile fun c => c != '/')).reverse)

end ThreatGraph.Path
