import ThreatGraph.Cli.Arguments
import ThreatGraph.Cli.Report
import ThreatGraph.Loading.Script
import ThreatGraph.Mapping.Directory
import ThreatGraph.Settings.File
import ThreatGraph.Stix.Bundle

/-!
# Commands

The program's commands over any surroundings. Each command answers with the text for the two
output streams or with the reason for which it failed. The settings are loaded before anything
else, and a command that writes does so as its last step, so one that fails has changed nothing.

Nothing is logged here. How much is to be logged is a setting like the others, and commands do the
same whatever it says.
-/

namespace ThreatGraph.Cli

/-- Why a command failed. -/
inductive Failure where
  | settings (defect : SettingsDefect)
  | mapping (defect : MappingDefect)
  | bundle (defect : BundleDefect)
  /-- the file for the statements cannot be written -/
  | notCreated (path : String)
  /-- there is a settings file already -/
  | alreadyThere (path : String)
  deriving DecidableEq, Repr

/-- The failure in words. -/
def Failure.message : Failure → String
  | .settings defect => defect.message
  | .mapping defect => defect.message
  | .bundle defect => defect.message
  | .notCreated path => "failed to create " ++ path
  | .alreadyThere path => path ++ " already exists; pass --force to overwrite"

/-- What goes to the output streams. -/
structure Output where
  /-- the text for the standard output -/
  standard : String := ""
  /-- the text for the error output -/
  error : String := ""
  deriving DecidableEq, Repr

namespace Output

/-- The text of lines. -/
def textOf (lines : List String) : String := String.join (lines.map fun line => line ++ "\n")

/-- Both outputs, one after the other. -/
def append (a b : Output) : Output := ⟨a.standard ++ b.standard, a.error ++ b.error⟩

instance : Append Output := ⟨append⟩

/-- Lines for the standard output. -/
def lines (lines : List String) : Output := { standard := textOf lines }

/-- Lines for the error output. -/
def errorLines (lines : List String) : Output := { error := textOf lines }

end Output

/-- How a run of the program ends. -/
structure Outcome where
  /-- the exit code -/
  code : Nat
  /-- what was written to the streams -/
  output : Output
  deriving DecidableEq, Repr

variable {m : Type → Type} [Monad m] (host : Host m)

/-- The run of a command: what it writes, or why it failed; what it had written by then is kept. -/
abbrev Run (m : Type → Type) := ExceptT Failure (StateT Output m)

namespace Run

/-- Writes to the streams. -/
def write (output : Output) : Run m Unit := modify fun written => written ++ output

/-- Asks the surroundings. -/
def ask {α : Type} (question : m α) : Run m α := ExceptT.lift (StateT.lift question)

/-- A step that may fail. -/
def ofExcept {ε α : Type} (failure : ε → Failure) (step : ExceptT ε m α) : Run m α :=
  ExceptT.adapt failure (ExceptT.mk (StateT.lift step.run))

/-- A step of the work with a name. In a quiet run, where nothing shows its progress, a step that
fails says so. -/
def task {α : Type} (style : Style) (name : String) (step : Run m α) : Run m α := do
  let start ← ask host.now
  match ← ExceptT.lift step.run with
  | .ok result => return result
  | .error failure =>
    let time := (← ask host.now) - start
    if style.quiet then
      write (.errorLines [style.warning (name ++ " failed after " ++ duration time)])
    throw failure

end Run

/-- The instant before which objects are dated when a bundle is read: the present. -/
abbrev Present := Int

/-- Reads the bundle at a path. -/
def readBundle (present : Present) (path : String) : ExceptT BundleDefect m (List Members) := do
  match ← host.readText? path with
  | none => throw (.unreadable path)
  | some text => Stix.readBundle path present text

/-- The settings as a request changes them. -/
def TransformRequest.settings (r : TransformRequest) (s : Settings) : Settings :=
  { s with
    mappingDir := r.mapping <|> s.mappingDir
    batchSize := r.batchSize.getD s.batchSize
    strict := s.strict || r.strict }

/-- The script of a collection, and the summary of its load. -/
def scriptOf (batchSize : Nat) (collection : Collection) : LoadSummary × Script :=
  Loader.loadCollection (Script.store fun _ => .ok ()) (.ofSize batchSize) collection {}

/-- Converts a bundle to a script of statements. -/
def transform (present : Present) (style : Style) (settings : Settings) (r : TransformRequest) :
    Run m Unit := do
  let settings := r.settings settings
  let mapping ← Run.task host style "loading mapping"
    (Run.ofExcept .mapping (Mapping.load host settings.mappingDir))
  let objects ← Run.task host style ("reading " ++ r.bundle)
    (Run.ofExcept .bundle (readBundle host present r.bundle))
  let start ← Run.ask host.now
  let collection := Collection.ofObjects mapping settings.strict objects
  let (summary, script) := scriptOf settings.batchSize collection
  let time := (← Run.ask host.now) - start
  let done := style.success
    ("transformed " ++ toString collection.objects ++ " objects in " ++ duration time)
  match r.output with
  | some path =>
    if !(← Run.ask (host.writeText path script.text)) then throw (.notCreated path)
    Run.write (.lines (transformReport style path collection summary))
    Run.write (.errorLines (mappingWarning style collection))
    Run.write (.lines [style.info ("statements written to " ++ path), done])
  | none =>
    Run.write { standard := script.text }
    Run.write (.errorLines (transformReport style "stdout" collection summary ++
      mappingWarning style collection ++ [done]))

/-- Loads a mapping, which checks it, and reports its size. -/
def checkMapping (style : Style) (dir : Option String) : Run m Unit := do
  let mapping ← Run.task host style "validating mapping"
    (Run.ofExcept .mapping (Mapping.load host dir))
  Run.write (.lines (style.figures "Mapping"
    [("source", dir.getD "built-in"), ("object types", toString mapping.objects.length),
      ("composites", toString mapping.composites.length),
      ("key-value schemas", toString mapping.keyValues.length),
      ("relation role tables", toString mapping.roles.length)] ++
    [style.success "mapping is valid"]))

/-- Writes a settings file with the default settings. A file that is there is kept unless `force`
is set. -/
def initConfig (style : Style) (path : String) (force : Bool) : Run m Unit := do
  if (← Run.ask (host.isThere path)) && !force then throw (.alreadyThere path)
  Run.ofExcept .settings (Settings.persist host {} path)
  Run.write (.lines [style.success ("wrote " ++ path)])

/-- Runs an invocation. -/
def perform (present : Present) (environment : Table String) (i : Invocation) :
    Run m Unit := do
  let style : Style := ⟨i.quiet⟩
  let path := Settings.path? environment i.config
  let settings ← Run.ofExcept .settings (Settings.load host path)
  match i.command with
  | .transform request => transform host present style settings request
  | .checkMapping dir => checkMapping host style (dir <|> settings.mappingDir)
  | .configPath =>
    match path with
    | none => throw (.settings .noPath)
    | some path => Run.write (.lines [path])
  | .configInit force =>
    match path with
    | none => throw (.settings .noPath)
    | some path => initConfig host style path force

/-- The name and the version of the program. -/
def versionLine : String := "stixgraph 0.1.0"

/-- How the program is used. -/
def usageLines : List String :=
  ["Usage: stixgraph [--config FILE] [-v] [--quiet] [--theme THEME] COMMAND",
    "  transform BUNDLE [-o FILE] [--mapping DIR] [--batch-size N] [--strict]",
    "  check-mapping [--mapping DIR]",
    "  config path",
    "  config init [--force]"]

/-- Runs the program with arguments. -/
def run (present : Present) (environment : Table String) (arguments : List String) :
    m Outcome := do
  match Invocation.ofArguments (environment.get? Settings.pathVariable) arguments with
  | .error .usage => return ⟨2, .errorLines usageLines⟩
  | .error .version => return ⟨0, .lines [versionLine]⟩
  | .error .help => return ⟨0, .lines usageLines⟩
  | .ok invocation =>
    match ← (perform host present environment invocation).run.run {} with
    | (.ok (), output) => return ⟨0, output⟩
    | (.error failure, output) =>
      return ⟨1, output ++ .errorLines ["error: " ++ failure.message]⟩

end ThreatGraph.Cli
