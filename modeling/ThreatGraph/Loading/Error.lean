import ThreatGraph.Text.Cut

/-!
# Refused statements

The store answers a batch that it does not take with a diagnostic. One of its diagnostics, that
for a reference to an object of the wrong type, is put in clearer words: it names the type and
the property in single quotes, the latter followed by a colon and a role.
-/

namespace ThreatGraph

/-- Why a statement or a batch was refused. -/
structure LoadingError where
  /-- the diagnostic, perhaps in clearer words -/
  message : String
  /-- the statement that was refused -/
  statement : String
  /-- the number of statements in the batch -/
  batchSize : Nat
  deriving DecidableEq, Repr

namespace LoadingError

/-- The code of the diagnostic that is put in clearer words. -/
def wrongReferenceCode : String := "[THW08]"

/-- The clearer words. -/
def wrongReferenceMessage (typeName property : String) : String :=
  wrongReferenceCode ++ " Referenced STIX objects of type '" ++ typeName ++
    "' are not valid for the property '" ++ property ++ "'"

/-- The first and the second text in quotes, the latter up to its first colon. The closing quote
of the latter may be missing. -/
def quotedPair? (diagnostic : List Char) : Option (String × String) :=
  match Text.pieces '\'' diagnostic with
  | _ :: first :: _ :: second :: _ =>
    some (String.ofList first, String.ofList (second.takeWhile fun c => c != ':'))
  | _ => none

/-- The message for a diagnostic. -/
def messageOf (diagnostic : String) : String :=
  if Text.contains wrongReferenceCode diagnostic then
    match quotedPair? diagnostic.toList with
    | some (typeName, property) => wrongReferenceMessage typeName property
    | none => diagnostic
  else diagnostic

/-- The error for a diagnostic. -/
def ofDiagnostic (diagnostic statement : String) (batchSize : Nat) : LoadingError :=
  ⟨messageOf diagnostic, statement, batchSize⟩

/-- The error in words, with the statement. -/
def display (e : LoadingError) : String :=
  (if e.batchSize = 1 then "Insert query skipped"
    else "Fail loading batch of " ++ toString e.batchSize ++ " queries") ++
  " due to a TypeDB insertion error.\n" ++ e.message ++ "\nFailed query:\n" ++ e.statement

end LoadingError

end ThreatGraph
