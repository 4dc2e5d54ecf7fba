import ThreatGraph.Host.Basic
import ThreatGraph.Host.Path
import ThreatGraph.Mapping.Builtin

/-!
# Mappings in directories

A mapping can be kept in a directory that holds its ten documents. All of them are read before
any is decoded, so an unreadable document is reported before a malformed one.
-/

namespace ThreatGraph.Mapping

variable {m : Type → Type} [Monad m] (host : Host m)

/-- Reads documents in a directory. -/
def readDocuments (dir : String) : List DocumentName → ExceptT MappingDefect m (Table String)
  | [] => return []
  | name :: rest => do
    let path := Path.join dir name.fileName
    match ← host.readText? path with
    | none => throw (.unreadable path)
    | some text =>
      let others ← readDocuments dir rest
      return (name.fileName, text) :: others

/-- Loads the mapping in a directory. -/
def ofDirectory (dir : String) : ExceptT MappingDefect m Mapping := do
  let texts ← readDocuments host dir DocumentName.all
  ofTexts texts

/-- Loads the mapping in a directory, or the built-in one where none is named. -/
def load (dir : Option String) : ExceptT MappingDefect m Mapping :=
  match dir with
  | some dir => ofDirectory host dir
  | none => builtin

end ThreatGraph.Mapping
