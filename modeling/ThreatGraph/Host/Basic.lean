/-!
# The surroundings of a command

Commands reach files and the clock through a record of operations only, so that the same command
runs on the machine's files and on a file system that is a value.
-/

namespace ThreatGraph

/-- What commands ask of their surroundings. -/
structure Host (m : Type → Type) where
  /-- whether something is at a path -/
  isThere : String → m Bool
  /-- the text of the file at a path, unless there is none -/
  readText? : String → m (Option String)
  /-- writes a text to the file at a path, in place of what it holds, and says whether it could -/
  writeText : String → String → m Bool
  /-- creates the directory at a path and those around it, and says whether it is there now -/
  createDirectories : String → m Bool
  /-- the time in nanoseconds since some point in the past -/
  now : m Nat

end ThreatGraph
