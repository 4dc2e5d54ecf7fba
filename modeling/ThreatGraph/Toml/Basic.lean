import ThreatGraph.Table

/-!
# TOML values

What a TOML document holds: values without parts, arrays and tables. Of them settings use texts,
integers and truth values; other numbers, dates and times are kept as they are written.

A table may be defined in four ways and remembers which, because a table that has been defined
must not be defined again or extended in another way. `addEntry` and `addTable` keep to that.
-/

namespace ThreatGraph

namespace Toml

/-- A value without parts. -/
inductive Scalar where
  | string (text : String)
  | integer (n : Int)
  | boolean (flag : Bool)
  /-- a number with a point or an exponent, or one that is not finite, as it is written -/
  | float (text : String)
  /-- a date, a time or both, as it is written -/
  | moment (text : String)
  deriving DecidableEq, Repr

/-- How a table came to be. -/
inductive Origin where
  /-- a header names it -/
  | stated
  /-- a header names a table inside it -/
  | implied
  /-- a key with points goes through it -/
  | dotted
  /-- it is written in braces -/
  | inline
  deriving DecidableEq, Repr

end Toml

/-- A TOML value. -/
inductive Toml where
  | scalar (scalar : Toml.Scalar)
  | array (items : List Toml)
  | table (origin : Toml.Origin) (entries : List (String × Toml))

namespace Toml

/-- The entries of a table in order. -/
abbrev Entries := List (String × Toml)

/-- Adds a value under a key, which may have points in it. -/
def addEntry (value : Toml) : List String → Entries → Option Entries
  | [], _ => none
  | [name], entries =>
    if Table.contains entries name then none else some (Table.set entries name value)
  | name :: next :: path, entries =>
    let inner :=
      match Table.get? entries name with
      | none => some []
      | some (.table .dotted inner) => some inner
      | some _ => none
    (inner.bind (addEntry value (next :: path))).map fun inner =>
      Table.set entries name (.table .dotted inner)

/-- Adds the table of a header. -/
def addTable : List String → Entries → Option Entries
  | [], _ => none
  | [name], entries =>
    match Table.get? entries name with
    | none => some (Table.set entries name (.table .stated []))
    | some (.table .implied inner) => some (Table.set entries name (.table .stated inner))
    | some _ => none
  | name :: next :: path, entries =>
    let found :=
      match Table.get? entries name with
      | none => some (Origin.implied, [])
      | some (.table .inline _) => none
      | some (.table origin inner) => some (origin, inner)
      | some _ => none
    found.bind fun (origin, inner) =>
      (addTable (next :: path) inner).map fun inner => Table.set entries name (.table origin inner)

/-- Changes the entries of the table at a path. -/
def within (change : Entries → Option Entries) : List String → Entries → Option Entries
  | [], entries => change entries
  | name :: path, entries =>
    match Table.get? entries name with
    | some (.table origin inner) =>
      (within change path inner).map fun inner => Table.set entries name (.table origin inner)
    | _ => none

end Toml

end ThreatGraph
