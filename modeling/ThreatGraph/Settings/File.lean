import ThreatGraph.Host.Basic
import ThreatGraph.Host.Path
import ThreatGraph.Settings.Basic

/-!
# The settings file

Where the settings file is, and how settings are loaded from it and kept in it. Without a file the
settings are the default ones.
-/

namespace ThreatGraph

/-- Why settings are not loaded or kept. -/
inductive SettingsDefect where
  /-- there is something at `path` that is no text -/
  | unreadable (path : String)
  /-- the text at `path` states no settings -/
  | malformed (path : String)
  /-- the settings have no text -/
  | unwritable
  /-- the file at `path` cannot be written -/
  | notWritten (path : String)
  /-- the directory of the file cannot be created -/
  | noDirectory (path : String)
  /-- it is not known where the file should be -/
  | noPath
  deriving DecidableEq, Repr

/-- The defect in words. -/
def SettingsDefect.message : SettingsDefect → String
  | .unreadable path => "failed to read settings " ++ path
  | .malformed path => "failed to parse settings " ++ path
  | .unwritable => "failed to serialize settings"
  | .notWritten path => "failed to write settings " ++ path
  | .noDirectory path => "failed to create settings directory " ++ path
  | .noPath => "no config directory found; pass --config or set STIXGRAPH_CONFIG"

namespace Settings

/-- The variable that names the settings file. -/
def pathVariable : String := "STIXGRAPH_CONFIG"

/-- The directory for the settings of a user's programs. A relative path does not count as the
place for all of them. -/
def baseDirectory? (environment : Table String) : Option String :=
  match (environment.get? "XDG_CONFIG_HOME").filter Path.isAbsolute with
  | some base => some base
  | none =>
    ((environment.get? "HOME").filter fun home => !home.isEmpty).map fun home =>
      Path.join home ".config"

/-- The path of the settings file: the one that is named, or else the user's own. -/
def path? (environment : Table String) (named : Option String) : Option String :=
  named <|> (environment.get? pathVariable) <|>
    ((baseDirectory? environment).map fun base =>
      Path.join (Path.join base "stixgraph") "config.toml")

variable {m : Type → Type} [Monad m] (host : Host m)

/-- Loads the settings from the file at a path, if there is one. -/
def load (path : Option String) : ExceptT SettingsDefect m Settings := do
  match path with
  | none => return {}
  | some path =>
    if !(← host.isThere path) then return {}
    match ← host.readText? path with
    | none => throw (.unreadable path)
    | some text =>
      match ofText? text with
      | none => throw (.malformed path)
      | some settings => return settings

/-- Keeps settings in the file at a path, whose directory is created first. -/
def persist (settings : Settings) (path : String) : ExceptT SettingsDefect m Unit := do
  match (Path.parent? path).filter fun parent => !parent.isEmpty with
  | none => pure ()
  | some parent => if !(← host.createDirectories parent) then throw (.noDirectory parent)
  match settings.text? with
  | none => throw .unwritable
  | some text => if !(← host.writeText path text) then throw (.notWritten path)

end Settings

end ThreatGraph
