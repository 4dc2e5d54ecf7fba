import ThreatGraph.Loading.Loader
import ThreatGraph.Toml.Printer
import ThreatGraph.Toml.Reader
import ThreatGraph.Word

/-!
# Settings

What a settings file can set: where the mapping is, whether conversions are strict, how many
statements make a batch, and what is logged. The file is a TOML document with a section for each
of these. A section or an entry that is left out has its default, and one that is not known is
refused, so that a misspelled name does not go unnoticed.

A section may also be given as the array of its values.
-/

namespace ThreatGraph

/-- What can be set. -/
structure Settings where
  /-- the directory of the mapping documents; without it the built-in mapping is used -/
  mappingDir : Option String := none
  /-- whether a failing property ends the conversion of its object -/
  strict : Bool := false
  /-- statements in a batch -/
  batchSize : Nat := Loader.defaultBatchSize
  /-- what is logged -/
  logFilter : Option String := none
  deriving DecidableEq, Repr

namespace Settings

/-! ## Reading -/

/-- The values of a section, in the order of the names that it knows. -/
def fields? (names : List String) : Option Toml → Option (List (Option Toml))
  | none => some (names.map fun _ => none)
  | some (.array items) =>
    some ((items.map some ++ names.map fun _ => none).take names.length)
  | some (.table _ entries) =>
    if entries.all fun entry => names.contains entry.1 then
      some (names.map fun name => Table.get? entries name)
    else none
  | some (.scalar _) => none

/-- A text that may be left out. -/
def optionalText? : Option Toml → Option (Option String)
  | none => some none
  | some (.scalar (.string text)) => some (some text)
  | some _ => none

/-- A truth value, false if it is left out. -/
def flag? : Option Toml → Option Bool
  | none => some false
  | some (.scalar (.boolean value)) => some value
  | some _ => none

/-- A number of statements, the default one if it is left out. -/
def size? : Option Toml → Option Nat
  | none => some Loader.defaultBatchSize
  | some (.scalar (.integer n)) => if 0 ≤ n then some n.toNat else none
  | some _ => none

/-- The one value of a section that knows one name. -/
def only? (name : String) (given : Option Toml) : Option (Option Toml) :=
  (fields? [name] given).bind List.head?

/-- The settings that a document states. -/
def decode? (document : Toml.Entries) : Option Settings := do
  let known := ["mapping", "transform", "load", "log"]
  if !document.all fun entry => known.contains entry.1 then none
  let part (name : String) := Table.get? document name
  let mappingDir ← optionalText? (← only? "dir" (part "mapping"))
  let strict ← flag? (← only? "strict" (part "transform"))
  let batchSize ← size? (← only? "batch_size" (part "load"))
  let logFilter ← optionalText? (← only? "filter" (part "log"))
  return { mappingDir, strict, batchSize, logFilter }

/-- The settings that a text states. -/
def ofText? (text : String) : Option Settings := (Toml.parse? text).bind decode?

/-! ## Writing -/

/-- The entry of a text that may be left out. -/
def optionalEntry (name : String) (text : Option String) : List (String × Toml.Scalar) :=
  (text.map fun text => (name, Toml.Scalar.string text)).toList

/-- The sections of the settings. -/
def sections (s : Settings) : List Toml.Section :=
  [⟨"mapping", optionalEntry "dir" s.mappingDir⟩,
    ⟨"transform", [("strict", .boolean s.strict)]⟩,
    ⟨"load", [("batch_size", .integer s.batchSize)]⟩,
    ⟨"log", optionalEntry "filter" s.logFilter⟩]

/-- The text of the settings. There is none if the batch size does not fit 64 bits with sign. -/
def text? (s : Settings) : Option String :=
  if Word.fitsSigned s.batchSize then some (String.ofList (Toml.writeSections s.sections)) else none

end Settings

end ThreatGraph
