import ThreatGraph.Loading.Loader

/-!
# Scripts

A script is a store that writes what it takes to a stream. Each batch is written at once, so a
refused batch leaves nothing behind for the retry to repeat: a comment line with its number and
the number of its statements, then the statements, each followed by an empty line.
-/

namespace ThreatGraph

/-- A stream with state `σ`: whether it takes a text that is written to it at once, or else why it
refuses it, and its state after that. -/
abbrev TextStream (σ : Type) := String → σ → Except String Unit × σ

/-- What has been written. -/
structure Script where
  /-- the text on the stream -/
  text : String := ""
  /-- the number of batches -/
  batches : Nat := 0
  /-- the number of statements -/
  statements : Nat := 0
  deriving DecidableEq, Repr

namespace Script

/-- The line of a text, which ends in a line break. -/
def ensureLineBreak (text : String) : String :=
  if text.toList.getLast? = some '\n' then text else text ++ "\n"

/-- The text of a batch. -/
def batchText (number : Nat) (batch : List String) : String :=
  "# batch " ++ toString number ++ " (" ++ toString batch.length ++ " statements)\n" ++
    String.join (batch.map fun statement => ensureLineBreak statement ++ "\n")

/-- The store that writes to a stream, whose state it keeps beside what has been written. -/
def writer {σ : Type} (stream : TextStream σ) : Store (Script × σ) := fun batch (script, s) =>
  let text := batchText (script.batches + 1) batch
  match stream text s with
  | (.ok (), s) =>
    (.ok (),
      ⟨script.text ++ text, script.batches + 1, script.statements + batch.length⟩, s)
  | (.error diagnostic, s) =>
    (.error (.ofDiagnostic diagnostic (batch.head?.getD "") batch.length), script, s)

/-- The store that writes to a stream without a state. -/
def store (stream : String → Except String Unit) : Store Script := fun batch script =>
  let (answer, script, _) := writer (fun text u => (stream text, u)) batch (script, ())
  (answer, script)

end Script

end ThreatGraph
