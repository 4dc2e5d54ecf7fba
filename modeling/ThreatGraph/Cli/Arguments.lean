import ThreatGraph.Binary64.Numeral
import ThreatGraph.Table
import ThreatGraph.Text.Cut
import ThreatGraph.Word

/-!
# Command-line arguments

Arguments go through levels: those of the program, then those of the command that a word names,
and for `config` those of its own command. Each level knows options of its own besides the common
ones, and at each of them an option may be given once. What is given further inside wins.

The arguments are read one after the other, and the first that is wrong ends the reading, as does
a request for the version or for help. What is wrong with an argument is not told; one and the same
summary of the usage answers them all.
-/

namespace ThreatGraph.Cli

/-- The options. -/
inductive OptionName where
  | config
  | verbose
  | quiet
  | theme
  | help
  | version
  | output
  | mapping
  | batchSize
  | strict
  | force
  deriving DecidableEq, Repr

/-- The levels of arguments. -/
inductive Level where
  | program
  | transform
  | checkMapping
  | config
  | configPath
  | configInit
  deriving DecidableEq, Repr

/-- Why no command is run. -/
inductive Stop where
  /-- the arguments are wrong -/
  | usage
  /-- the version is asked for -/
  | version
  /-- help is asked for -/
  | help
  deriving DecidableEq, Repr

namespace OptionName

/-- Whether the option has a value. -/
def takesValue : OptionName → Bool
  | .config | .theme | .output | .mapping | .batchSize => true
  | _ => false

/-- Whether the option may be given again at the same level. -/
def repeats (o : OptionName) : Bool := o = .verbose

end OptionName

/-- The options that all levels know, by their long names. -/
def commonOptions : Table OptionName :=
  [("config", .config), ("verbose", .verbose), ("quiet", .quiet), ("theme", .theme),
    ("help", .help)]

namespace Level

/-- The options of a level by their long names. -/
def longOptions : Level → Table OptionName
  | .program => commonOptions ++ [("version", .version)]
  | .transform =>
    commonOptions ++ [("output", .output), ("mapping", .mapping), ("batch-size", .batchSize),
      ("strict", .strict)]
  | .checkMapping => commonOptions ++ [("mapping", .mapping)]
  | .config => commonOptions
  | .configPath => commonOptions
  | .configInit => commonOptions ++ [("force", .force)]

/-- The option of a letter. -/
def shortOption? : Level → Char → Option OptionName
  | _, 'v' => some .verbose
  | _, 'h' => some .help
  | .program, 'V' => some .version
  | .transform, 'o' => some .output
  | _, _ => none

/-- The level that a word leads to. -/
def enter? : Level → String → Option Level
  | .program, "transform" => some .transform
  | .program, "check-mapping" => some .checkMapping
  | .program, "config" => some .config
  | .config, "path" => some .configPath
  | .config, "init" => some .configInit
  | _, _ => none

end Level

/-- The themes, which matter on a terminal only. -/
def themes : List String := ["auto", "light", "dark", "plain"]

/-- A number of 64 bits without sign, in front of which a plus may stand. -/
def size? (text : String) : Option Nat :=
  let digits :=
    match text.toList with
    | '+' :: rest => rest
    | cs => cs
  if digits.isEmpty || !digits.all Char.isDigit then none
  else some (Numeral.value digits) |>.filter Word.fitsUnsigned

/-- Whether an option may have a value. -/
def OptionName.accepts : OptionName → String → Bool
  | .theme, value => themes.contains value
  | .batchSize, value => (size? value).isSome
  | _, value => !value.isEmpty

/-- The options given at one level, each with its value; those without one have an empty one. -/
abbrev Given := List (OptionName × String)

/-- What has been read. -/
structure Reading where
  /-- where the reading is -/
  level : Level := .program
  /-- the options given at this level -/
  given : Given := []
  /-- the options given at the levels around it, from the inside out -/
  outer : List Given := []
  /-- the word that names no command -/
  word : Option String := none
  /-- the option that waits for its value -/
  pending : Option OptionName := none
  /-- whether all that follows are words -/
  onlyWords : Bool := false

namespace Reading

variable (r : Reading)

/-- An option is given. -/
def give (name : OptionName) (value : String) : Except Stop Reading :=
  if name = .version then .error .version
  else if name = .help then .error .help
  else if !name.repeats && r.given.any (fun entry => entry.1 = name) then .error .usage
  else if name.takesValue && !name.accepts value then .error .usage
  else .ok { r with given := (name, value) :: r.given, pending := none }

/-- An option with its long name, and with a value after an equals sign if there is one. -/
def long (text : String) : Except Stop Reading :=
  let (name, value) :=
    match Text.cut? "=" text with
    | some (name, value) => (name, some value)
    | none => (text, none)
  match r.level.longOptions.get? name, value with
  | none, _ => .error .usage
  | some o, some value => if o.takesValue then r.give o value else .error .usage
  | some o, none => if o.takesValue then .ok { r with pending := some o } else r.give o ""

/-- Options by their letters; what follows the letter of one with a value is its value. -/
def short (r : Reading) : List Char → Except Stop Reading
  | [] => .ok r
  | letter :: rest =>
    match r.level.shortOption? letter with
    | none => .error .usage
    | some o =>
      if o.takesValue then
        match rest with
        | [] => .ok { r with pending := some o }
        | '=' :: value => r.give o (String.ofList value)
        | value => r.give o (String.ofList value)
      else (r.give o "").bind fun r => short r rest

/-- A word that names no command: the bundle. -/
def plainWord (text : String) : Except Stop Reading :=
  if r.level = .transform ∧ r.word = none ∧ text ≠ "" then .ok { r with word := some text }
  else .error .usage

/-- One more argument. -/
def step (r : Reading) (text : String) : Except Stop Reading :=
  if r.onlyWords then r.plainWord text
  else
    match text.toList, r.pending with
    | '-' :: '-' :: [], none => .ok { r with onlyWords := true }
    | '-' :: '-' :: name, none => r.long (String.ofList name)
    | '-' :: letter :: letters, none => r.short (letter :: letters)
    | '-' :: _ :: _, some _ => .error .usage
    | _, some o => r.give o text
    | _, none =>
      match r.level.enter? text with
      | some level => .ok { level, outer := r.given :: r.outer }
      | none => r.plainWord text

end Reading

/-! ## Invocations -/

/-- What `transform` is asked to do. -/
structure TransformRequest where
  /-- the path of the bundle -/
  bundle : String
  /-- the path of the file for the statements; without it they go to the standard output -/
  output : Option String
  /-- the directory of the mapping, in place of the one in the settings -/
  mapping : Option String
  /-- statements in a batch, in place of the number in the settings -/
  batchSize : Option Nat
  /-- whether conversions are strict even if the settings do not say so -/
  strict : Bool
  deriving DecidableEq, Repr

/-- The commands. -/
inductive Command where
  | transform (request : TransformRequest)
  | checkMapping (mapping : Option String)
  | configPath
  | configInit (force : Bool)
  deriving DecidableEq, Repr

/-- What the program is asked to do. -/
structure Invocation where
  /-- the path of the settings file, if one is named -/
  config : Option String
  /-- whether only what is essential is reported -/
  quiet : Bool
  /-- the command -/
  command : Command
  deriving DecidableEq, Repr

namespace Reading

variable (r : Reading)

/-- The value of an option at the innermost level. -/
def value? (name : OptionName) : Option String := r.given.lookup name

/-- Whether an option is given at the innermost level. -/
def has (name : OptionName) : Bool := (r.value? name).isSome

/-- The options of all levels, from the inside out. -/
def allGiven : List Given := r.given :: r.outer

/-- The command that the arguments name. -/
def command? : Option Command :=
  match r.level with
  | .program | .config => none
  | .transform =>
    r.word.map fun bundle =>
      .transform
        { bundle
          output := r.value? .output
          mapping := r.value? .mapping
          batchSize := (r.value? .batchSize).bind size?
          strict := r.has .strict }
  | .checkMapping => some (.checkMapping (r.value? .mapping))
  | .configPath => some .configPath
  | .configInit => some (.configInit (r.has .force))

/-- The path of the settings file. `fallback` counts at every level that names none, and an empty
one is wrong there. -/
def config? (fallback : Option String) : Except Stop (Option String) :=
  if fallback = some "" ∧ r.allGiven.any fun given => (given.lookup .config).isNone then
    .error .usage
  else .ok ((r.allGiven.findSome? fun given => given.lookup .config) <|> fallback)

end Reading

/-- What arguments ask for, where `fallback` is the settings file to use if they name none. -/
def Invocation.ofArguments (fallback : Option String) (arguments : List String) :
    Except Stop Invocation := do
  let r ← arguments.foldlM Reading.step {}
  if r.pending.isSome then throw .usage
  let config ← r.config? fallback
  match r.command? with
  | none => throw .usage
  | some command =>
    return { config, quiet := r.allGiven.any fun given => (given.lookup .quiet).isSome, command }

end ThreatGraph.Cli
