import ThreatGraph.Loading.Error

/-!
# Summaries of a load

What became of the statements that were loaded. Summaries of parts are put together by `++`.
-/

namespace ThreatGraph

/-- Counts of a load, and the errors of the statements that were refused on their own. -/
structure LoadSummary where
  /-- statements that were to be loaded -/
  statements : Nat := 0
  /-- batches that were attempted -/
  batches : Nat := 0
  /-- batches of several statements that were refused, and retried one by one -/
  failedBatches : Nat := 0
  /-- statements that the store took -/
  inserted : Nat := 0
  /-- statements that have no text or that the store refused -/
  rejected : Nat := 0
  /-- why statements were refused on their own, in order -/
  errors : List LoadingError := []
  deriving DecidableEq, Repr

namespace LoadSummary

/-- The summary of both parts. -/
def append (a b : LoadSummary) : LoadSummary where
  statements := a.statements + b.statements
  batches := a.batches + b.batches
  failedBatches := a.failedBatches + b.failedBatches
  inserted := a.inserted + b.inserted
  rejected := a.rejected + b.rejected
  errors := a.errors ++ b.errors

instance : Append LoadSummary := ⟨append⟩

/-- Whether no statement was rejected. -/
def isClean (s : LoadSummary) : Bool := s.rejected = 0

end LoadSummary

end ThreatGraph
