import ThreatGraph.Conversion.Collection
import ThreatGraph.Loading.Summary

/-!
# Loading statements

Statements go to the store in batches of a fixed size. The store takes a batch as a whole or
refuses it as a whole. A refused batch of several statements is retried one by one, so that one
bad statement does not block the others; a statement that is refused on its own is rejected and
not tried again.

The store is any machine that answers batches, and may answer the same batch differently at
another time.
-/

namespace ThreatGraph

/-- A store with state `σ`: what it answers to a batch, and the state after it. -/
abbrev Store (σ : Type) := List String → σ → Except LoadingError Unit × σ

/-- How statements are loaded. -/
structure Loader where
  /-- statements in a batch -/
  batchSize : Nat
  /-- a batch is not empty -/
  batchSize_pos : 0 < batchSize := by omega

namespace Loader

/-- The number of statements in a batch where nothing else is said. -/
def defaultBatchSize : Nat := 200

/-- A loader with batches of a size; zero counts as one. -/
def ofSize (size : Nat) : Loader where
  batchSize := max size 1

/-- The batches of a list: all but the last have `size` statements. -/
def batchesOf (size : Nat) : List String → List (List String)
  | [] => []
  | first :: rest =>
    (first :: rest.take (size - 1)) :: batchesOf size (rest.drop (size - 1))
termination_by statements => statements.length
decreasing_by simp only [List.length_drop, List.length_cons]; omega

variable {σ : Type} (store : Store σ)

/-- Sends statements one by one. -/
def loadSingly : List String → σ → LoadSummary × σ
  | [], s => ({}, s)
  | statement :: rest, s =>
    let (answer, s) := store [statement] s
    let (others, s) := loadSingly rest s
    match answer with
    | .ok () => ({ inserted := 1 } ++ others, s)
    | .error e => ({ rejected := 1, errors := [e] } ++ others, s)

/-- Sends a batch, and its statements one by one if it is refused. -/
def loadBatch (batch : List String) (s : σ) : LoadSummary × σ :=
  match store batch s with
  | (.ok (), s) => ({ batches := 1, inserted := batch.length }, s)
  | (.error e, s) =>
    if batch.length = 1 then ({ batches := 1, rejected := 1, errors := [e] }, s)
    else
      let (singles, s) := loadSingly store batch s
      ({ batches := 1, failedBatches := 1 } ++ singles, s)

/-- Sends batches in order. -/
def loadBatches : List (List String) → σ → LoadSummary × σ
  | [], s => ({}, s)
  | batch :: rest, s =>
    let (first, s) := loadBatch store batch s
    let (others, s) := loadBatches rest s
    (first ++ others, s)

variable (loader : Loader)

/-- Loads texts of statements in order. -/
def load (texts : List String) (s : σ) : LoadSummary × σ :=
  let (summary, s) := loadBatches store (batchesOf loader.batchSize texts) s
  ({ statements := texts.length } ++ summary, s)

/-- The texts of the statements that have one. -/
def textsOf (statements : List Statement) : List String :=
  statements.filterMap fun statement => statement.text.toOption.filter fun text => !text.isEmpty

/-- The number of statements that cannot be written. -/
def unwritable (statements : List Statement) : Nat :=
  statements.countP fun statement => statement.text.toOption.isNone

/-- Loads statements in order. Those that cannot be written are rejected, and those that insert
nothing are left out. -/
def loadStatements (statements : List Statement) (s : σ) : LoadSummary × σ :=
  let (summary, s) := load store loader (textsOf statements) s
  let failures := unwritable statements
  (summary ++ { statements := failures, rejected := failures }, s)

/-- Loads a collection, slot by slot. -/
def loadCollection (collection : Collection) (s : σ) : LoadSummary × σ :=
  let (entities, s) := loadStatements store loader collection.entities s
  let (relations, s) := loadStatements store loader collection.relations s
  let (embedded, s) := loadStatements store loader collection.embedded s
  (entities ++ relations ++ embedded, s)

end Loader

end ThreatGraph
