import Mathlib.Algebra.Ring.Nat
import Mathlib.Data.List.Perm.Basic
import ThreatGraph.Loading.Loader

/-!
# Every statement is settled once

A store may answer as it likes, and differently each time, so what became of the statements can
only be seen in the calls that it got. `Store.recorded` is the store with a log of these calls.

A call settles its statements if it is taken, or if it is a refused call of a single statement; a
refused batch of several statements settles none and is retried. What is settled is always a
beginning of the list, so a call begins behind what the calls before it settled. `Settles` says
that a log goes through a list in this way to its end, `Accounts` that a summary counts its calls,
`loadBatches_accounts` that the loader's logs and summaries are so, and `load_settles` what follows
for every position.
-/

namespace ThreatGraph

/-! ## Calls -/

/-- A batch that a store was given, and its answer. -/
structure Call where
  /-- the statements -/
  batch : List String
  /-- the answer -/
  answer : Except LoadingError Unit

namespace Call

variable (c : Call)

/-- Whether the store took the batch. -/
def taken : Bool := c.answer.isOk

/-- Whether the store refused a batch of several statements. -/
def retried : Bool := !c.taken && decide (1 < c.batch.length)

/-- Why the store refused a single statement. -/
def refusal? : Option LoadingError :=
  match c.answer with
  | .ok () => none
  | .error e => if 1 < c.batch.length then none else some e

/-- The number of statements that the call settles. -/
def settled : Nat := if c.retried then 0 else c.batch.length

end Call

namespace Call

variable {c : Call}

/-- A batch that is retried was not taken, and is not refused for good. -/
theorem not_taken_of_retried (h : c.retried = true) : c.taken = false ∧ c.refusal? = none := by
  obtain ⟨batch, answer⟩ := c
  simp only [retried, Bool.and_eq_true, Bool.not_eq_true', decide_eq_true_eq] at h
  rcases answer with e | ⟨⟩
  · exact ⟨h.1, if_pos h.2⟩
  · exact ⟨h.1, rfl⟩

/-- Any other batch was taken, or has one statement, which was refused. -/
theorem taken_or_refused (hbatch : c.batch ≠ []) (h : c.retried = false) :
    (c.taken = true ∧ c.refusal? = none) ∨
      ∃ e, c.taken = false ∧ c.refusal? = some e ∧ c.batch.length = 1 := by
  obtain ⟨batch, answer⟩ := c
  rcases answer with e | ⟨⟩
  · have hlength : ¬ 1 < batch.length := by
      simpa [retried, taken, Except.isOk, Except.toBool] using h
    have hpos := List.length_pos_iff.mpr hbatch
    exact .inr ⟨e, rfl, if_neg hlength, Nat.le_antisymm (Nat.not_lt.mp hlength) hpos⟩
  · exact .inl ⟨rfl, rfl⟩

/-- A batch of several statements is retried if it is refused. -/
theorem retried_error {batch : List String} (h : 1 < batch.length) (e : LoadingError) :
    retried ⟨batch, .error e⟩ = true := by
  simp [retried, taken, Except.isOk, Except.toBool, h]

theorem retried_single {batch : List String} (h : batch.length = 1)
    (answer : Except LoadingError Unit) : retried ⟨batch, answer⟩ = false := by
  simp [retried, h]

theorem settled_of_retried (h : c.retried = true) : c.settled = 0 := by
  rw [settled, if_pos h]

theorem settled_of_not_retried (h : c.retried = false) : c.settled = c.batch.length := by
  rw [settled, h]
  rfl

end Call

/-- The calls of a log, each with the position at which it begins if the first begins at `start`:
behind the statements that were settled before. -/
def placed : Nat → List Call → List (Nat × Call)
  | _, [] => []
  | start, c :: rest => (start, c) :: placed (start + c.settled) rest

/-- The positions of statements in calls that were taken, call by call. -/
def takenAt (start : Nat) (log : List Call) : List Nat :=
  (placed start log).flatMap fun (position, c) =>
    if c.taken then List.range' position c.batch.length else []

/-- The positions of statements that were refused on their own, call by call. -/
def refusedAt (start : Nat) (log : List Call) : List Nat :=
  (placed start log).flatMap fun (position, c) =>
    if c.refusal?.isSome then List.range' position c.batch.length else []

/-- What is taken from a call on is what the call takes, and what is taken behind it. -/
theorem takenAt_cons (start : Nat) (c : Call) (log : List Call) : takenAt start (c :: log) =
    (if c.taken then List.range' start c.batch.length else []) ++
      takenAt (start + c.settled) log := rfl

theorem refusedAt_cons (start : Nat) (c : Call) (log : List Call) : refusedAt start (c :: log) =
    (if c.refusal?.isSome then List.range' start c.batch.length else []) ++
      refusedAt (start + c.settled) log := rfl

/-- The store with a log of the calls that it gets. -/
def Store.recorded {σ : Type} (store : Store σ) : Store (σ × List Call) :=
  fun batch (s, log) =>
    let (answer, s) := store batch s
    (answer, s, log ++ [⟨batch, answer⟩])

theorem Store.recorded_eq {σ : Type} {store : Store σ} {batch : List String} {s u : σ}
    {answer : Except LoadingError Unit} (h : store batch s = (answer, u)) (log : List Call) :
    store.recorded batch (s, log) = (answer, u, log ++ [⟨batch, answer⟩]) := by
  rw [recorded, h]

/-! ## Logs that settle a list -/

/-- The calls of the log go through the list from its beginning to its end. -/
inductive Settles : List String → List Call → Prop where
  /-- nothing is left -/
  | nil : Settles [] []
  /-- the first call settles its statements, which come first -/
  | settled {c : Call} {rest : List String} {log : List Call} :
    c.batch ≠ [] → c.retried = false → Settles rest log → Settles (c.batch ++ rest) (c :: log)
  /-- the first call is for statements that come first, and settles none -/
  | retried {c : Call} {rest : List String} {log : List Call} :
    c.retried = true → Settles (c.batch ++ rest) log → Settles (c.batch ++ rest) (c :: log)

namespace Settles

variable {texts others : List String} {log more : List Call}

theorem append (h : Settles texts log) (h' : Settles others more) :
    Settles (texts ++ others) (log ++ more) := by
  induction h with
  | nil => exact h'
  | @settled c rest log hbatch hretried _ ih =>
    rw [List.append_assoc]
    exact .settled hbatch hretried ih
  | @retried c rest log hretried _ ih =>
    rw [List.append_assoc] at ih ⊢
    exact .retried hretried ih

/-- Every call is for the statements at its positions. -/
theorem batch_prefix (h : Settles texts log) (before : List String) {position : Nat} {c : Call}
    (hc : (position, c) ∈ placed before.length log) :
    c.batch <+: (before ++ texts).drop position := by
  -- a call for what comes next is for a prefix of what is left
  have hhere (before batch rest : List String) :
      batch <+: (before ++ (batch ++ rest)).drop before.length := by
    rw [List.drop_left]
    exact List.prefix_append _ _
  induction h generalizing before with
  | nil => exact absurd hc List.not_mem_nil
  | @settled d rest log _ hretried _ ih =>
    rcases List.mem_cons.mp hc with heq | hc
    · obtain ⟨rfl, rfl⟩ := Prod.mk.inj heq
      exact hhere ..
    · rw [Call.settled_of_not_retried hretried, ← List.length_append] at hc
      rw [← List.append_assoc]
      exact ih (before ++ d.batch) hc
  | @retried d rest log hretried _ ih =>
    rcases List.mem_cons.mp hc with heq | hc
    · obtain ⟨rfl, rfl⟩ := Prod.mk.inj heq
      exact hhere ..
    · rw [Call.settled_of_retried hretried] at hc
      exact ih before hc

/-- Every position is settled once: in a call that was taken, or in one that was refused for
good. -/
theorem perm_range (h : Settles texts log) (start : Nat) :
    (takenAt start log ++ refusedAt start log).Perm (List.range' start texts.length) := by
  induction h generalizing start with
  | nil => exact .nil
  | @settled c rest log hbatch hretried _ ih =>
    rw [takenAt_cons, refusedAt_cons, Call.settled_of_not_retried hretried, List.length_append,
      ← List.range'_append_1]
    rcases Call.taken_or_refused hbatch hretried with ⟨htaken, hrefusal⟩ |
      ⟨e, htaken, hrefusal, -⟩
    · rw [htaken, hrefusal, List.append_assoc]
      exact (ih _).append_left _
    -- what was refused here comes behind all that is taken later
    · rw [htaken, hrefusal]
      refine List.Perm.trans ?_ ((ih _).append_left _)
      exact List.perm_append_comm_assoc ..
  -- the retries begin where this call began
  | @retried c rest log hretried _ ih =>
    obtain ⟨htaken, hrefusal⟩ := Call.not_taken_of_retried hretried
    rw [takenAt_cons, refusedAt_cons, Call.settled_of_retried hretried, htaken, hrefusal]
    exact ih start

/-- Nothing before the start of a log is taken. -/
theorem le_of_mem_takenAt (h : Settles texts log) {start position : Nat}
    (hposition : position ∈ takenAt start log) : start ≤ position := by
  have hrange := (h.perm_range start).subset (List.mem_append_left _ hposition)
  exact (List.mem_range'_1.mp hrange).1

/-- Statements are taken in their order. -/
theorem pairwise_takenAt (h : Settles texts log) (start : Nat) :
    (takenAt start log).Pairwise (· < ·) := by
  induction h generalizing start with
  | nil => exact .nil
  | @settled c rest log hbatch hretried hrest ih =>
    rw [takenAt_cons, Call.settled_of_not_retried hretried, List.pairwise_append]
    -- later calls begin behind the statements of this one
    refine ⟨?_, ih _, fun x hx y hy => ?_⟩
    · split
      · exact List.pairwise_lt_range'
      · exact .nil
    · have hy := hrest.le_of_mem_takenAt hy
      split at hx
      · exact Nat.lt_of_lt_of_le (List.mem_range'_1.mp hx).2 hy
      · exact absurd hx List.not_mem_nil
  | @retried c rest log hretried _ ih =>
    rw [takenAt_cons, Call.settled_of_retried hretried, (Call.not_taken_of_retried hretried).1]
    exact ih start

/-- The calls that were taken hold the statements at their positions, one after the other. -/
theorem taken_batches (h : Settles texts log) (before : List String) :
    ((log.filter Call.taken).flatMap Call.batch).map some =
      (takenAt before.length log).map fun position => (before ++ texts)[position]? := by
  induction h generalizing before with
  | nil => rfl
  | @settled c rest log hbatch hretried _ ih =>
    -- what is settled by the first call lies before the positions of the rest
    have hrest := ih (before ++ c.batch)
    rw [List.length_append, List.append_assoc] at hrest
    rw [takenAt_cons, Call.settled_of_not_retried hretried, List.map_append, ← hrest,
      List.filter_cons]
    cases htaken : c.taken with
    | true =>
      have hbatch : c.batch.map some = (List.range' before.length c.batch.length).map
          fun position => (before ++ (c.batch ++ rest))[position]? := by
        refine List.ext_getElem (by simp) fun i hi hi' => ?_
        simp only [List.length_map] at hi
        simp [List.getElem?_append_right, List.getElem?_append_left, hi]
      rw [if_pos rfl, if_pos rfl, List.flatMap_cons, List.map_append, hbatch]
    | false => rfl
  | @retried c rest log hretried _ ih =>
    obtain ⟨htaken, -⟩ := Call.not_taken_of_retried hretried
    rw [takenAt_cons, Call.settled_of_retried hretried, htaken,
      List.filter_cons_of_neg (by simp [htaken])]
    exact ih before

/-- As many statements are taken as are in the calls that are. -/
theorem length_takenAt (h : Settles texts log) :
    (takenAt 0 log).length = ((log.filter Call.taken).flatMap Call.batch).length := by
  have hmap := congrArg List.length (h.taken_batches [])
  rw [List.length_map, List.length_map] at hmap
  exact hmap.symm

/-- Statements refused on their own are refused one by one. -/
theorem length_refusedAt (h : Settles texts log) (start : Nat) :
    (refusedAt start log).length = (log.filterMap Call.refusal?).length := by
  induction h generalizing start with
  | nil => rfl
  | @settled c rest log hbatch hretried _ ih =>
    rw [refusedAt_cons, List.length_append, ih]
    rcases Call.taken_or_refused hbatch hretried with ⟨-, hrefusal⟩ | ⟨e, -, hrefusal, hone⟩
    · rw [hrefusal, List.filterMap_cons_none hrefusal]
      exact Nat.zero_add _
    · rw [hrefusal, List.filterMap_cons_some hrefusal, List.length_cons, hone]
      exact Nat.add_comm _ _
  | @retried c rest log hretried _ ih =>
    obtain ⟨-, hrefusal⟩ := Call.not_taken_of_retried hretried
    rw [refusedAt_cons, hrefusal, List.filterMap_cons_none hrefusal]
    exact ih _

end Settles

/-! ## Summaries of logs -/

/-- The log goes through the list with batches of at most `size` statements, and the summary says
what became of them. -/
structure Accounts (size : Nat) (texts : List String) (summary : LoadSummary) (log : List Call) :
    Prop where
  settles : Settles texts log
  bounded : ∀ c ∈ log, c.batch ≠ [] ∧ c.batch.length ≤ size
  statements : summary.statements = 0
  inserted : summary.inserted = ((log.filter Call.taken).flatMap Call.batch).length
  errors : summary.errors = log.filterMap Call.refusal?
  rejected : summary.rejected = summary.errors.length
  failedBatches : summary.failedBatches = log.countP Call.retried

namespace Accounts

variable {size batches : Nat} {batch texts others : List String} {summary more : LoadSummary}
  {log calls : List Call} {e : LoadingError}

theorem nothing (size : Nat) : Accounts size [] {} [] where
  settles := .nil
  bounded _ hc := absurd hc List.not_mem_nil
  statements := rfl
  inserted := rfl
  errors := rfl
  rejected := rfl
  failedBatches := rfl

theorem append (h : Accounts size texts summary log) (h' : Accounts size others more calls) :
    Accounts size (texts ++ others) (summary ++ more) (log ++ calls) where
  settles := h.settles.append h'.settles
  bounded c hc := (List.mem_append.mp hc).elim (h.bounded c) (h'.bounded c)
  statements := by
    change summary.statements + more.statements = 0
    rw [h.statements, h'.statements]
  inserted := by
    rw [List.filter_append, List.flatMap_append, List.length_append, ← h.inserted, ← h'.inserted]
    rfl
  errors := by
    rw [List.filterMap_append, ← h.errors, ← h'.errors]
    rfl
  rejected := by
    change summary.rejected + more.rejected = (summary.errors ++ more.errors).length
    rw [List.length_append, h.rejected, h'.rejected]
  failedBatches := by
    rw [List.countP_append, ← h.failedBatches, ← h'.failedBatches]
    rfl

/-- A batch that is taken. -/
theorem taken (hbatch : batch ≠ []) (hsize : batch.length ≤ size) (batches : Nat) :
    Accounts size batch { batches, inserted := batch.length } [⟨batch, .ok ()⟩] where
  settles := by
    have hretried : Call.retried ⟨batch, .ok ()⟩ = false := rfl
    have h := Settles.settled hbatch hretried .nil
    rwa [List.append_nil] at h
  bounded c hc := by
    obtain rfl := List.mem_singleton.mp hc
    exact ⟨hbatch, hsize⟩
  statements := rfl
  inserted := by
    change batch.length = (batch ++ []).length
    rw [List.append_nil]
  errors := rfl
  rejected := rfl
  failedBatches := rfl

/-- A single statement that is refused. -/
theorem refused (hbatch : batch.length = 1) (hsize : 0 < size) (batches : Nat) :
    Accounts size batch { batches, rejected := 1, errors := [e] } [⟨batch, .error e⟩] where
  settles := by
    have hnonempty : batch ≠ [] := List.ne_nil_of_length_pos (by omega)
    have h := Settles.settled hnonempty (Call.retried_single hbatch (.error e)) .nil
    rwa [List.append_nil] at h
  bounded c hc := by
    obtain rfl := List.mem_singleton.mp hc
    rw [hbatch]
    exact ⟨List.ne_nil_of_length_pos (hbatch ▸ Nat.one_pos), hsize⟩
  statements := rfl
  inserted := rfl
  errors := by simp [Call.refusal?, hbatch]
  rejected := rfl
  failedBatches := by
    rw [List.countP_singleton, Call.retried_single hbatch]
    rfl

/-- A batch that is refused, and then accounted for in another way. -/
theorem retried (h : Accounts size batch summary log) (hbatch : 1 < batch.length)
    (hsize : batch.length ≤ size) :
    Accounts size batch ({ batches := 1, failedBatches := 1 } ++ summary)
      (⟨batch, .error e⟩ :: log) where
  settles := by
    have hagain := @Settles.retried _ [] log (Call.retried_error hbatch e)
    rw [List.append_nil] at hagain
    exact hagain h.settles
  bounded c hc := by
    rcases List.mem_cons.mp hc with rfl | hc
    · exact ⟨List.ne_nil_of_length_pos (Nat.lt_trans Nat.one_pos hbatch), hsize⟩
    · exact h.bounded c hc
  statements := by
    change 0 + summary.statements = 0
    rw [Nat.zero_add, h.statements]
  inserted := by
    change 0 + summary.inserted = _
    rw [Nat.zero_add, h.inserted]
    rfl
  errors := by
    have hrefusal : Call.refusal? ⟨batch, .error e⟩ = none := if_pos hbatch
    rw [List.filterMap_cons_none hrefusal, ← h.errors]
    rfl
  rejected := by
    change 0 + summary.rejected = ([] ++ summary.errors).length
    rw [Nat.zero_add, List.nil_append, h.rejected]
  failedBatches := by
    change 1 + summary.failedBatches = _
    rw [List.countP_cons_of_pos (Call.retried_error hbatch e), h.failedBatches, Nat.add_comm]

end Accounts

/-! ## Runs of the loader -/

namespace Loader

variable {σ : Type} (store : Store σ) {size : Nat}

/-- What the store is sent, statement by statement. -/
theorem loadSingly_accounts (hsize : 0 < size) (texts : List String) (s : σ) (log : List Call) :
    ∃ calls, loadSingly store.recorded texts (s, log) =
        ((loadSingly store texts s).1, (loadSingly store texts s).2, log ++ calls) ∧
      Accounts size texts (loadSingly store texts s).1 calls ∧
      (loadSingly store texts s).1.batches = 0 ∧ calls.length = texts.length ∧
      calls.filter Call.retried = [] := by
  induction texts generalizing s log with
  | nil => exact ⟨[], by simp [loadSingly], .nothing size, rfl, rfl, rfl⟩
  | cons statement rest ih =>
    rcases hanswer : store [statement] s with ⟨answer, u⟩
    obtain ⟨calls, hrun, haccounts, hbatches, hlength, hretried⟩ :=
      ih u (log ++ [⟨[statement], answer⟩])
    have hnone : (⟨[statement], answer⟩ :: calls).filter Call.retried = [] := by
      have hsingle : Call.retried ⟨[statement], answer⟩ = false := Call.retried_single rfl answer
      rw [List.filter_cons_of_neg (by simp [hsingle]), hretried]
    refine ⟨⟨[statement], answer⟩ :: calls, ?_⟩
    rw [loadSingly, loadSingly, Store.recorded_eq hanswer, hanswer]
    simp only [hrun, List.append_assoc, List.singleton_append]
    cases answer with
    | error e =>
      have hfirst : Accounts size [statement] { rejected := 1, errors := [e] }
          [⟨[statement], .error e⟩] := .refused rfl hsize 0
      exact ⟨rfl, hfirst.append haccounts, (Nat.zero_add _).trans hbatches,
        congrArg (· + 1) hlength, hnone⟩
    | ok accepted =>
      have hfirst : Accounts size [statement] { inserted := 1 } [⟨[statement], .ok accepted⟩] :=
        .taken (List.cons_ne_nil _ _) hsize 0
      exact ⟨rfl, hfirst.append haccounts, (Nat.zero_add _).trans hbatches,
        congrArg (· + 1) hlength, hnone⟩

/-- What the store is sent of a batch: the batch itself, and then perhaps each statement alone. -/
theorem loadBatch_accounts {batch : List String} (hbatch : batch ≠ [])
    (hsize : batch.length ≤ size) (s : σ) (log : List Call) :
    ∃ calls, loadBatch store.recorded batch (s, log) =
        ((loadBatch store batch s).1, (loadBatch store batch s).2, log ++ calls) ∧
      Accounts size batch (loadBatch store batch s).1 calls ∧
      (loadBatch store batch s).1.batches = 1 ∧
      calls.length = 1 + ((calls.filter Call.retried).map fun c => c.batch.length).sum := by
  have hpos : 0 < batch.length := List.length_pos_iff.mpr hbatch
  have hsize' := Nat.lt_of_lt_of_le hpos hsize
  rcases hanswer : store batch s with ⟨answer, u⟩
  rw [loadBatch, loadBatch, Store.recorded_eq hanswer, hanswer]
  cases answer with
  | error e =>
    by_cases hone : batch.length = 1
    · have hagain : Call.retried ⟨batch, .error e⟩ = false := Call.retried_single hone _
      refine ⟨[⟨batch, .error e⟩], ?_⟩
      simp only [if_pos hone]
      refine ⟨trivial, .refused hone hsize' 1, trivial, ?_⟩
      rw [List.filter_cons_of_neg (by simp [hagain])]
      rfl
    · have hmany : 1 < batch.length := Nat.lt_of_le_of_ne hpos (Ne.symm hone)
      obtain ⟨calls, hrun, haccounts, hbatches, hlength, hretried⟩ :=
        loadSingly_accounts store hsize' batch u (log ++ [⟨batch, .error e⟩])
      refine ⟨⟨batch, .error e⟩ :: calls, ?_⟩
      simp only [if_neg hone, hrun, List.append_assoc, List.singleton_append]
      refine ⟨trivial, haccounts.retried hmany hsize, congrArg (1 + ·) hbatches, ?_⟩
      -- the batch is the only call that is retried, and its statements are the other calls
      rw [List.filter_cons_of_pos (Call.retried_error hmany e), hretried, List.length_cons,
        hlength]
      exact Nat.add_comm _ _
  | ok accepted => exact ⟨[⟨batch, .ok accepted⟩], rfl, .taken hbatch hsize 1, rfl, rfl⟩

/-- What the store is sent of several batches, one after the other. -/
theorem loadBatches_accounts {batches : List (List String)}
    (hbatches : ∀ batch ∈ batches, batch ≠ [] ∧ batch.length ≤ size) (s : σ) (log : List Call) :
    ∃ calls, loadBatches store.recorded batches (s, log) =
        ((loadBatches store batches s).1, (loadBatches store batches s).2, log ++ calls) ∧
      Accounts size batches.flatten (loadBatches store batches s).1 calls ∧
      (loadBatches store batches s).1.batches = batches.length ∧
      calls.length = batches.length +
        ((calls.filter Call.retried).map fun c => c.batch.length).sum := by
  induction batches generalizing s log with
  | nil => exact ⟨[], by simp [loadBatches], .nothing size, rfl, rfl⟩
  | cons batch rest ih =>
    obtain ⟨hnonempty, hsize⟩ := hbatches batch List.mem_cons_self
    obtain ⟨first, hfirst, haccounts, hone, hlength⟩ :=
      loadBatch_accounts store hnonempty hsize s log
    -- the other batches go to the store as the first has left it
    obtain ⟨others, hothers, haccounts', hcount, hlength'⟩ :=
      ih (fun other hother => hbatches other (List.mem_cons_of_mem _ hother))
        (loadBatch store batch s).2 (log ++ first)
    refine ⟨first ++ others, ?_, haccounts.append haccounts', ?_, ?_⟩
    · rw [loadBatches, loadBatches, hfirst]
      simp only [hothers, List.append_assoc]
    · change (loadBatch store batch s).1.batches +
        (loadBatches store rest (loadBatch store batch s).2).1.batches = _
      rw [hone, hcount, List.length_cons, Nat.add_comm]
    · rw [List.filter_append, List.map_append, List.sum_append_nat, List.length_append, hlength,
        hlength', List.length_cons]
      omega

/-- The batches of a list are its statements in order, and all but the last are full. -/
theorem batchesOf_spec (hsize : 0 < size) (texts : List String) :
    (batchesOf size texts).flatten = texts ∧
      (∀ batch ∈ batchesOf size texts, batch ≠ [] ∧ batch.length ≤ size) ∧
      (batchesOf size texts).length = (texts.length + size - 1) / size := by
  induction texts using batchesOf.induct size with
  | case1 =>
    rw [batchesOf]
    refine ⟨rfl, fun _ hbatch => absurd hbatch List.not_mem_nil, ?_⟩
    exact (Nat.div_eq_of_lt (by simpa using Nat.sub_lt hsize Nat.one_pos)).symm
  | case2 first rest ih =>
    obtain ⟨hflatten, hbounded, hlength⟩ := ih
    rw [batchesOf]
    refine ⟨?_, fun batch hbatch => ?_, ?_⟩
    · rw [List.flatten_cons, hflatten, List.cons_append, List.take_append_drop]
    · rcases List.mem_cons.mp hbatch with rfl | hbatch
      · refine ⟨List.cons_ne_nil _ _, ?_⟩
        rw [List.length_cons, List.length_take]
        omega
      · exact hbounded batch hbatch
    · rw [List.length_cons, hlength, List.length_drop, List.length_cons]
      have hright : rest.length + 1 + size - 1 = rest.length + size := by omega
      rw [hright, Nat.add_div_right _ hsize]
      congr 1
      -- what is left is no statement at all, or all but `size - 1`
      rcases Nat.lt_or_ge rest.length size with hshort | hlong
      · have hleft : rest.length - (size - 1) + size - 1 < size := by omega
        rw [Nat.div_eq_of_lt hleft, Nat.div_eq_of_lt hshort]
      · have hleft : rest.length - (size - 1) + size - 1 = rest.length := by omega
        rw [hleft]

/-- **Every statement is settled once.** Whatever the store answers, the calls that it gets are
for statements in their places, none larger than a batch. Every position is in one call that was
taken or in one call of a single statement that was refused, and in no other such call. What was
taken are the statements at the accepted positions in order, and the summary counts the calls as
they were: one for each batch, and for each batch of several that was refused one more for each of
its statements. -/
theorem load_settles (size : Nat) (texts : List String) (s : σ) :
    let batchSize := max size 1
    let summary := (load store (ofSize size) texts s).1
    ∃ log, load store.recorded (ofSize size) texts (s, []) =
        (summary, (load store (ofSize size) texts s).2, log) ∧
      (∀ position c, (position, c) ∈ placed 0 log → c.batch <+: texts.drop position) ∧
      (∀ c ∈ log, c.batch ≠ [] ∧ c.batch.length ≤ batchSize) ∧
      (takenAt 0 log ++ refusedAt 0 log).Perm (List.range texts.length) ∧
      (takenAt 0 log).Pairwise (· < ·) ∧
      ((log.filter Call.taken).flatMap Call.batch).map some =
        (takenAt 0 log).map (texts[·]?) ∧
      summary.statements = texts.length ∧
      summary.inserted = (takenAt 0 log).length ∧
      summary.rejected = (refusedAt 0 log).length ∧
      summary.rejected = summary.errors.length ∧
      summary.errors = log.filterMap Call.refusal? ∧
      summary.inserted + summary.rejected = summary.statements ∧
      summary.batches = (texts.length + batchSize - 1) / batchSize ∧
      summary.failedBatches = log.countP Call.retried ∧
      log.length = summary.batches +
        ((log.filter Call.retried).map fun c => c.batch.length).sum := by
  intro batchSize summary
  have hpos : 0 < batchSize := (ofSize size).batchSize_pos
  obtain ⟨hflatten, hbounded, hcount⟩ := batchesOf_spec hpos texts
  obtain ⟨log, hrun, haccounts, hbatches, hlength⟩ :=
    loadBatches_accounts store hbounded s []
  rw [hflatten] at haccounts
  rcases hloaded : loadBatches store (batchesOf batchSize texts) s with ⟨part, u⟩
  rw [hloaded] at hrun haccounts hbatches
  have hsummary : summary = { statements := texts.length } ++ part := by
    change { statements := texts.length } ++ (loadBatches store (batchesOf batchSize texts) s).1 = _
    rw [hloaded]
  have hsettles := haccounts.settles
  have hperm := hsettles.perm_range 0
  rw [← List.range_eq_range'] at hperm
  have hstatements : summary.statements = texts.length := by
    rw [hsummary]
    change texts.length + part.statements = texts.length
    rw [haccounts.statements, Nat.add_zero]
  have hinserted : summary.inserted = (takenAt 0 log).length := by
    rw [hsummary, hsettles.length_takenAt, ← haccounts.inserted]
    exact Nat.zero_add _
  have herrors : summary.errors = log.filterMap Call.refusal? := by
    rw [hsummary, ← haccounts.errors]
    rfl
  have hrejected : summary.rejected = summary.errors.length := by
    rw [hsummary]
    exact (Nat.zero_add _).trans haccounts.rejected
  have hrefused : summary.rejected = (refusedAt 0 log).length := by
    rw [hrejected, herrors, hsettles.length_refusedAt]
  have hbatches' : summary.batches = (batchesOf batchSize texts).length := by
    rw [hsummary]
    exact (Nat.zero_add _).trans hbatches
  have hfailed : summary.failedBatches = log.countP Call.retried := by
    rw [hsummary]
    exact (Nat.zero_add _).trans haccounts.failedBatches
  refine ⟨log, ?_, fun _ _ hc => hsettles.batch_prefix [] hc, haccounts.bounded, hperm,
    hsettles.pairwise_takenAt 0, hsettles.taken_batches [], hstatements, hinserted, hrefused,
    hrejected, herrors, ?_, ?_, hfailed, ?_⟩
  · have hstate : (load store (ofSize size) texts s).2 = u := congrArg Prod.snd hloaded
    have hbatchSize : (ofSize size).batchSize = batchSize := rfl
    rw [hsummary, hstate, load, hbatchSize, hrun]
    rfl
  · have hcounts := hperm.length_eq
    rw [List.length_append, List.length_range] at hcounts
    rw [hinserted, hrefused, hstatements, hcounts]
  · rw [hbatches', hcount]
  · rw [hbatches', hlength]

end Loader

end ThreatGraph
