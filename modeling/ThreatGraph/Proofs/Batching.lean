import ThreatGraph.Proofs.Settlement

/-!
# The size of the batches does not matter

A store may judge statements one by one and always alike (`Store.Stateless`): it takes a batch if
it would take each of its statements, and has one answer to a statement that it refuses. Then it
does not show in the result how the statements were put into batches. Whatever is taken as part of
a batch would have been taken alone, and whatever is refused is refused alone in the end, be it in
a retry or in a batch of its own.

So a log that goes through a list settles it as the store judges its statements
(`Settles.judged`), and every loader's log is one (`Loader.load_judged`).
-/

namespace ThreatGraph

variable {σ : Type} {store : Store σ} {acceptable : String → Bool}
  {refusal : String → LoadingError}

/-- The store takes a batch exactly if all its statements are acceptable, and its answer to a single
statement that is not hangs on nothing else. What it answers to a larger batch that it refuses, and
what it keeps as its state, is left open. -/
structure Store.Stateless (store : Store σ) (acceptable : String → Bool)
    (refusal : String → LoadingError) : Prop where
  takes : ∀ batch s, (store batch s).1 = .ok () ↔ ∀ text ∈ batch, acceptable text = true
  refuses : ∀ text s, acceptable text = false → (store [text] s).1 = .error (refusal text)

/-! ## Calls and their answers -/

/-- The call was answered by the store, in some state. -/
def Call.Answered (store : Store σ) (c : Call) : Prop := ∃ s, c.answer = (store c.batch s).1

/-- The statements of the calls that were taken, in order. -/
def takenTexts (log : List Call) : List String := (log.filter Call.taken).flatMap Call.batch

/-- The statements that were refused on their own, in order. -/
def refusedTexts (log : List Call) : List String :=
  (log.filter fun c => c.refusal?.isSome).flatMap Call.batch

namespace Call.Answered

variable {c : Call}

/-- A call is taken exactly if its statements are acceptable. -/
theorem taken_iff (h : c.Answered store) (hstore : store.Stateless acceptable refusal) :
    c.taken = true ↔ ∀ text ∈ c.batch, acceptable text = true := by
  obtain ⟨s, hs⟩ := h
  rw [← hstore.takes c.batch s, ← hs, taken]
  rcases c.answer with e | ⟨⟨⟩⟩ <;> simp [Except.isOk, Except.toBool]

/-- A refused statement is not acceptable, and is refused for its reason. -/
theorem refused_single (h : c.Answered store) (hstore : store.Stateless acceptable refusal)
    (htaken : c.taken = false) {e : LoadingError} (hrefusal : c.refusal? = some e)
    (hone : c.batch.length = 1) :
    ∃ text, c.batch = [text] ∧ acceptable text = false ∧ e = refusal text := by
  obtain ⟨text, hbatch⟩ := List.length_eq_one_iff.mp hone
  have hunacceptable : acceptable text = false := by
    by_contra hacceptable
    refine absurd ((h.taken_iff hstore).mpr fun other hother => ?_) (by simp [htaken])
    rw [hbatch, List.mem_singleton] at hother
    rw [hother]
    exact eq_true_of_ne_false hacceptable
  obtain ⟨s, hs⟩ := h
  rw [hbatch, hstore.refuses text s hunacceptable] at hs
  rw [refusal?, hs] at hrefusal
  simp only [hbatch, List.length_singleton, Nat.lt_irrefl, if_false] at hrefusal
  exact ⟨text, hbatch, hunacceptable, (Option.some.inj hrefusal).symm⟩

end Call.Answered

namespace Store

variable (store)

/-- A call that is recorded was answered by the store. -/
theorem recorded_answered (batch : List String) (state : σ × List Call)
    (h : ∀ c ∈ state.2, c.Answered store) :
    ∀ c ∈ (store.recorded batch state).2.2, c.Answered store := by
  obtain ⟨s, log⟩ := state
  intro c hc
  rcases List.mem_append.mp hc with hc | hc
  · exact h c hc
  · obtain rfl := List.mem_singleton.mp hc
    exact ⟨s, rfl⟩

/-- Where no call was made, every call was answered. -/
theorem none_answered (s : σ) : ∀ c ∈ (s, ([] : List Call)).2, c.Answered store :=
  fun _ hc => absurd hc List.not_mem_nil

end Store

/-- A log that goes through a list takes what is acceptable, refuses what is not, and reports the
reason of each refusal, all in the order of the list. -/
theorem Settles.judged {texts : List String} {log : List Call} (h : Settles texts log)
    (hlog : ∀ c ∈ log, c.Answered store) (hstore : store.Stateless acceptable refusal) :
    takenTexts log = texts.filter acceptable ∧
      refusedTexts log = texts.filter (fun text => !acceptable text) ∧
      log.filterMap Call.refusal? =
        (texts.filter fun text => !acceptable text).map refusal := by
  induction h with
  | nil => exact ⟨rfl, rfl, rfl⟩
  | @settled c rest log hbatch hretried _ ih =>
    obtain ⟨htaken, hrefused, herrors⟩ := ih fun d hd => hlog d (List.mem_cons_of_mem _ hd)
    have hanswered := hlog c List.mem_cons_self
    simp only [takenTexts, refusedTexts] at htaken hrefused
    rcases Call.taken_or_refused hbatch hretried with ⟨hc, hnone⟩ | ⟨e, hc, hsome, hone⟩
    -- all of a batch that was taken is acceptable
    · have hacceptable := (hanswered.taken_iff hstore).mp hc
      have hkeep : c.batch.filter acceptable = c.batch := List.filter_eq_self.mpr hacceptable
      have hdrop : c.batch.filter (fun text => !acceptable text) = [] := by
        simpa [List.filter_eq_nil_iff] using hacceptable
      simp [takenTexts, refusedTexts, hc, hnone, hkeep, hdrop, htaken, hrefused, herrors]
    · obtain ⟨text, hsingle, hunacceptable, rfl⟩ :=
        hanswered.refused_single hstore hc hsome hone
      simp [takenTexts, refusedTexts, hc, hsome, hsingle, hunacceptable, htaken, hrefused,
        herrors]
  -- a batch that is retried is in the log, but settles nothing
  | @retried c rest log hretried _ ih =>
    obtain ⟨htaken, hrefused, herrors⟩ := ih fun d hd => hlog d (List.mem_cons_of_mem _ hd)
    obtain ⟨hc, hnone⟩ := Call.not_taken_of_retried hretried
    refine ⟨?_, ?_, ?_⟩
    · rw [← htaken, takenTexts, takenTexts, List.filter_cons_of_neg (by simp [hc])]
    · rw [← hrefused, refusedTexts, refusedTexts, List.filter_cons_of_neg (by simp [hnone])]
    · rw [← herrors, List.filterMap_cons_none hnone]

/-! ## Runs of the loader -/

namespace Loader

/-! What every call of the store preserves is preserved by a run. -/

section Preserved

variable {I : σ → Prop} (hcall : ∀ batch s, I s → I (store batch s).2)

include hcall

/-- Loading statements one by one preserves what single calls preserve. -/
theorem loadSingly_preserves (texts : List String) {s : σ} (hs : I s) :
    I (loadSingly store texts s).2 := by
  induction texts generalizing s with
  | nil => exact hs
  | cons text rest ih =>
    have hrest := ih (hcall [text] s hs)
    rcases hanswer : store [text] s with ⟨_ | ⟨⟩, u⟩ <;> rw [hanswer] at hrest <;>
      simpa only [loadSingly, hanswer] using hrest

/-- So does loading a batch, of which the statements may be retried. -/
theorem loadBatch_preserves (batch : List String) {s : σ} (hs : I s) :
    I (loadBatch store batch s).2 := by
  have hfirst := hcall batch s hs
  rcases hanswer : store batch s with ⟨e | ⟨⟩, u⟩ <;> rw [hanswer] at hfirst <;>
    simp only [loadBatch, hanswer]
  · split
    · exact hfirst
    · exact loadSingly_preserves hcall batch hfirst
  · exact hfirst

theorem loadBatches_preserves (batches : List (List String)) {s : σ} (hs : I s) :
    I (loadBatches store batches s).2 := by
  induction batches generalizing s with
  | nil => exact hs
  | cons batch rest ih => exact ih (loadBatch_preserves hcall batch hs)

end Preserved

/-- What became of statements, apart from the batches in which they were sent. -/
structure Fate where
  /-- the statements that the store took, in order -/
  taken : List String
  /-- the statements that it refused on their own, in order -/
  refused : List String
  /-- the number of those taken, as it is summed up -/
  inserted : Nat
  /-- the number of those refused, as it is summed up -/
  rejected : Nat
  /-- the reasons that are reported -/
  errors : List LoadingError
  /-- whether the summary is clean -/
  isClean : Bool
  deriving DecidableEq

/-- The fate of statements in a run, by its summary and the calls that the store got. -/
def Fate.of (summary : LoadSummary) (log : List Call) : Fate where
  taken := takenTexts log
  refused := refusedTexts log
  inserted := summary.inserted
  rejected := summary.rejected
  errors := summary.errors
  isClean := summary.isClean

/-- The fate of statements that are judged one by one. -/
def Fate.judged (acceptable : String → Bool) (refusal : String → LoadingError)
    (texts : List String) : Fate where
  taken := texts.filter acceptable
  refused := texts.filter fun text => !acceptable text
  inserted := texts.countP acceptable
  rejected := texts.countP fun text => !acceptable text
  errors := (texts.filter fun text => !acceptable text).map refusal
  isClean := texts.all acceptable

/-- A run that accounts for its statements to a stateless store leaves them to their fate. -/
theorem Fate.of_accounts {size : Nat} {texts : List String} {summary : LoadSummary}
    {log : List Call} (h : Accounts size texts summary log)
    (hlog : ∀ c ∈ log, c.Answered store) (hstore : store.Stateless acceptable refusal) :
    Fate.of summary log = .judged acceptable refusal texts := by
  obtain ⟨htaken, hrefused, herrors⟩ := h.settles.judged hlog hstore
  have hinserted : summary.inserted = texts.countP acceptable := by
    rw [h.inserted, List.countP_eq_length_filter, ← htaken, takenTexts]
  have hrejected : summary.rejected = texts.countP fun text => !acceptable text := by
    rw [h.rejected, h.errors, herrors, List.length_map, List.countP_eq_length_filter]
  have hclean : summary.isClean = texts.all acceptable := by
    rw [LoadSummary.isClean, hrejected, Bool.eq_iff_iff, decide_eq_true_iff]
    simp [List.countP_eq_zero]
  rw [of, judged, htaken, hrefused, hinserted, hrejected, h.errors, herrors, hclean]

/-- How many statements there were to be does not touch their fate. -/
theorem Fate.of_statements (statements : Nat) (summary : LoadSummary) (log : List Call) :
    Fate.of ({ statements } ++ summary) log = Fate.of summary log := by
  have hinserted : ({ statements } ++ summary : LoadSummary).inserted = summary.inserted :=
    Nat.zero_add _
  have hrejected : ({ statements } ++ summary : LoadSummary).rejected = summary.rejected :=
    Nat.zero_add _
  have herrors : ({ statements } ++ summary : LoadSummary).errors = summary.errors := rfl
  simp only [of, LoadSummary.isClean, hinserted, hrejected, herrors]

/-- Statements that are loaded one by one have the fate that a judge of each text gives them. -/
theorem loadSingly_fate (hstore : store.Stateless acceptable refusal) (texts : List String)
    (s : σ) :
    Fate.of (loadSingly store texts s).1 (loadSingly store.recorded texts (s, [])).2.2 =
      .judged acceptable refusal texts := by
  obtain ⟨log, hrun, haccounts, -⟩ := loadSingly_accounts store Nat.one_pos texts s []
  have hlog := loadSingly_preserves (store.recorded_answered) texts (store.none_answered s)
  rw [hrun] at hlog ⊢
  exact Fate.of_accounts haccounts hlog hstore

/-- So they have in batches of any size, as those that a batch was refused for are loaded one by
one. -/
theorem load_fate (hstore : store.Stateless acceptable refusal) (size : Nat)
    (texts : List String) (s : σ) :
    Fate.of (load store (ofSize size) texts s).1
        (load store.recorded (ofSize size) texts (s, [])).2.2 =
      .judged acceptable refusal texts := by
  obtain ⟨hflatten, hbounded, -⟩ := batchesOf_spec (ofSize size).batchSize_pos texts
  obtain ⟨log, hrun, haccounts, -⟩ := loadBatches_accounts store hbounded s []
  have hlog := loadBatches_preserves (store.recorded_answered)
    (batchesOf (ofSize size).batchSize texts) (store.none_answered s)
  rw [hflatten] at haccounts
  rw [load, load, Fate.of_statements]
  rw [hrun] at hlog ⊢
  exact Fate.of_accounts haccounts hlog hstore

/-- **The size of the batches does not matter.** A stateless store takes and refuses the same
statements in the same order for batches of any size, whatever its state is at first, and the same
is summed up and reported. It is what comes of sending every statement alone, as a retry does: what
is acceptable is taken, and what is not is refused for its reason. -/
theorem load_judged (hstore : store.Stateless acceptable refusal) (size size' : Nat)
    (texts : List String) (s s' : σ) :
    let fate (size : Nat) (s : σ) : Fate :=
      .of (load store (ofSize size) texts s).1
        (load store.recorded (ofSize size) texts (s, [])).2.2
    let alone : Fate :=
      .of (loadSingly store texts s).1 (loadSingly store.recorded texts (s, [])).2.2
    fate size s = fate size' s' ∧ fate size s = alone ∧
      alone = .judged acceptable refusal texts := by
  intro fate alone
  have hfate (size : Nat) (s : σ) : fate size s = .judged acceptable refusal texts :=
    load_fate hstore size texts s
  have halone : alone = .judged acceptable refusal texts := loadSingly_fate hstore texts s
  exact ⟨(hfate size s).trans (hfate size' s').symm, (hfate size s).trans halone.symm, halone⟩

/-- Why `Store.judging` refuses a statement in a batch of a size. -/
def unacceptable (size : Nat) (text : String) : LoadingError :=
  .ofDiagnostic "unacceptable" text size

/-- A store that keeps the statements that it takes. Of a batch that it refuses it names the first
statement that is not acceptable, and the size. -/
def Store.judging (acceptable : String → Bool) : Store (List String) := fun batch kept =>
  match batch.find? fun text => !acceptable text with
  | none => (.ok (), kept ++ batch)
  | some text => (.error (unacceptable batch.length text), kept)

/-- A store that looks at nothing but the text of a statement has no state. -/
theorem Store.judging_stateless (acceptable : String → Bool) :
    (judging acceptable).Stateless acceptable (unacceptable 1) where
  takes batch s := by
    rw [judging]
    cases hfind : batch.find? fun text => !acceptable text with
    | none => simpa using hfind
    | some text =>
      have hbad := List.find?_some hfind
      have hmem := List.mem_of_find?_eq_some hfind
      simp only [reduceCtorEq, false_iff, not_forall]
      exact ⟨text, hmem, by simpa using hbad⟩
  refuses text s h := by simp [judging, h]

/-- Four statements of which one is refused, in batches of two and of three. -/
theorem load_judged_mixed :
    let texts := ["a", "bad", "c", "d"]
    let store := Store.judging fun text => text != "bad"
    let fate (size : Nat) : Fate :=
      .of (load store (ofSize size) texts []).1
        (load store.recorded (ofSize size) texts ([], [])).2.2
    store.Stateless (fun text => text != "bad") (unacceptable 1) ∧ fate 2 = fate 3 ∧
      fate 2 = ⟨["a", "c", "d"], ["bad"], 3, 1, [unacceptable 1 "bad"], false⟩ := by
  intro texts store fate
  have hstore : store.Stateless (fun text => text != "bad") (unacceptable 1) :=
    Store.judging_stateless _
  obtain ⟨hsizes, halone, hjudged⟩ := load_judged hstore 2 3 texts [] []
  exact ⟨hstore, hsizes, halone.trans hjudged⟩

end Loader

end ThreatGraph
