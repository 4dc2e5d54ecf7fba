import ThreatGraph.Proofs.Settlement
import ThreatGraph.Proofs.Success

/-!
# Objects are loaded before what refers to them

A statement that matches objects takes effect only if they are stored already. So the statements
that match nothing have a slot of their own, which is loaded first, and each slot is settled before
the next begins: a call of the store is for statements of one slot, in their places, and what was
attempted at any time is a beginning of the slot (`GoesThrough`). `loadCollection_in_order` says so
of the statements of any objects, in any order, for any store.

What was attempted is read off the log by positions, and is a beginning of the list at any time
(`Settles.attempted_initial`). That entities match nothing is a fact about conversions, and is shown
of the draft of a single object.
-/

namespace ThreatGraph

/-! ## What was attempted so far -/

/-- The positions of the statements in the calls of a log, call by call. -/
def attemptedAt (start : Nat) (log : List Call) : List Nat :=
  (placed start log).flatMap fun (position, c) => List.range' position c.batch.length

/-- The statements of a call are attempted from where those before it are settled. -/
theorem attemptedAt_cons (start : Nat) (c : Call) (log : List Call) :
    attemptedAt start (c :: log) =
      List.range' start c.batch.length ++ attemptedAt (start + c.settled) log := rfl

/-- Whenever the run is looked at, the statements that were attempted are the first so many: a
retry goes back, but never past what was attempted before. -/
theorem Settles.attempted_initial {texts : List String} {log : List Call} (h : Settles texts log)
    (start : Nat) {front : List Call} (hfront : front <+: log) :
    ∃ n, start ≤ n ∧ ∀ i, i ∈ attemptedAt start front ↔ start ≤ i ∧ i < n := by
  have hnothing (start : Nat) : ∃ n, start ≤ n ∧
      ∀ i, i ∈ attemptedAt start [] ↔ start ≤ i ∧ i < n := by
    refine ⟨start, Nat.le_refl _, fun i => ⟨fun hi => absurd hi List.not_mem_nil, fun hi => ?_⟩⟩
    omega
  induction h generalizing start front with
  | nil =>
    obtain rfl := List.prefix_nil.mp hfront
    exact hnothing start
  | @settled c rest log _ hretried _ ih =>
    rcases List.prefix_cons_iff.mp hfront with rfl | ⟨others, rfl, hothers⟩
    · exact hnothing start
    · obtain ⟨n, hn, hmem⟩ := ih (start + c.batch.length) hothers
      refine ⟨n, by omega, fun i => ?_⟩
      rw [attemptedAt_cons, Call.settled_of_not_retried hretried, List.mem_append, hmem,
        List.mem_range'_1]
      omega
  | @retried c rest log hretried _ ih =>
    rcases List.prefix_cons_iff.mp hfront with rfl | ⟨others, rfl, hothers⟩
    · exact hnothing start
    -- the retries begin where the batch began
    · obtain ⟨n, hn, hmem⟩ := ih start hothers
      refine ⟨max (start + c.batch.length) n, by omega, fun i => ?_⟩
      rw [attemptedAt_cons, Call.settled_of_retried hretried, List.mem_append, Nat.add_zero, hmem,
        List.mem_range'_1]
      omega

/-- The calls of a log go through a list: each is for statements in their places, every position is
settled once, and what was attempted at any time is a beginning of the list. -/
structure GoesThrough (texts : List String) (log : List Call) : Prop where
  placed : ∀ position c, (position, c) ∈ placed 0 log →
    c.batch ≠ [] ∧ c.batch <+: texts.drop position
  settled : (takenAt 0 log ++ refusedAt 0 log).Perm (List.range texts.length)
  forward : ∀ front, front <+: log → ∃ n, ∀ i, i ∈ attemptedAt 0 front ↔ i < n

/-- Calls that are placed are calls of the log. -/
theorem mem_of_mem_placed {start position : Nat} {c : Call} {log : List Call}
    (h : (position, c) ∈ placed start log) : c ∈ log := by
  induction log generalizing start with
  | nil => exact absurd h List.not_mem_nil
  | cons d rest ih =>
    rcases List.mem_cons.mp h with heq | h
    · obtain ⟨-, rfl⟩ := Prod.mk.inj heq
      exact List.mem_cons_self
    · exact List.mem_cons_of_mem _ (ih h)

/-- A log that accounts for statements goes through them in order. -/
theorem Accounts.goesThrough {size : Nat} {texts : List String} {summary : LoadSummary}
    {log : List Call} (h : Accounts size texts summary log) : GoesThrough texts log where
  placed := fun _ c hc => ⟨(h.bounded c (mem_of_mem_placed hc)).1, h.settles.batch_prefix [] hc⟩
  settled := by
    rw [List.range_eq_range']
    exact h.settles.perm_range 0
  forward := by
    intro front hfront
    obtain ⟨n, -, hmem⟩ := h.settles.attempted_initial 0 hfront
    exact ⟨n, fun i => (hmem i).trans (by omega)⟩

namespace Loader

variable {σ : Type} (store : Store σ)

/-- The calls for a list of statements come behind those that the store got before, and go through
the list. -/
theorem loadStatements_goesThrough (size : Nat) (statements : List Statement) (s : σ)
    (log : List Call) :
    ∃ calls, loadStatements store.recorded (ofSize size) statements (s, log) =
        ((loadStatements store (ofSize size) statements s).1,
          (loadStatements store (ofSize size) statements s).2, log ++ calls) ∧
      GoesThrough (textsOf statements) calls := by
  obtain ⟨hflatten, hbounded, -⟩ :=
    batchesOf_spec (ofSize size).batchSize_pos (textsOf statements)
  obtain ⟨calls, hrun, haccounts, -⟩ := loadBatches_accounts store hbounded s log
  rw [hflatten] at haccounts
  refine ⟨calls, ?_, haccounts.goesThrough⟩
  rw [loadStatements, loadStatements, load, load, hrun]

end Loader

/-! ## What the slots hold -/

namespace Collection

/-- The slots of a collection are filled object by object. -/
theorem ofObjects_eq (m : Mapping) (strict : Bool) (objects : List Members) :
    (ofObjects m strict objects).entities =
        objects.flatMap (fun object => (ofObject m strict object).entities) ∧
      (ofObjects m strict objects).relations =
        objects.flatMap (fun object => (ofObject m strict object).relations) ∧
      (ofObjects m strict objects).embedded =
        objects.flatMap (fun object => (ofObject m strict object).embedded) := by
  induction objects with
  | nil => exact ⟨rfl, rfl, rfl⟩
  | cons object rest ih =>
    obtain ⟨hentities, hrelations, hembedded⟩ := ih
    rw [List.flatMap_cons, List.flatMap_cons, List.flatMap_cons, ← hentities, ← hrelations,
      ← hembedded]
    exact ⟨rfl, rfl, rfl⟩

end Collection

/-- An entity and its helpers are created without matching anything. -/
theorem Draft.matched_of_order {d : Draft} {statements : OrderedStatements}
    (h : d.order = .ok statements) {statement : Statement}
    (hstatement : statements.entities = some statement) : statement.matched = [] := by
  rw [Draft.order_eq] at h
  split at h
  · obtain rfl := Except.ok.inj h
    obtain rfl := Option.some.inj hstatement
    rfl
  · obtain rfl := Except.ok.inj h
    cases hstatement
  · split at h
    · obtain rfl := Except.ok.inj h
      cases hstatement
    · cases h

/-- The statement for an entity matches nothing, whatever the object. -/
theorem convertObject_entities_matched {m : Mapping} {strict : Bool} {object : Members}
    {c : Conversion} (h : convertObject m strict object = .ok c) {statement : Statement}
    (hstatement : c.statements.entities = some statement) : statement.matched = [] := by
  obtain ⟨s, -, h⟩ := convertObject_ok h
  rcases Subject.convert_ok h with ⟨-, rfl⟩ | ⟨_, _, _, _, _, -, -, horder, rfl⟩
  · cases hstatement
  · exact Draft.matched_of_order horder hstatement

theorem Collection.entities_matched {m : Mapping} {strict : Bool} {object : Members}
    {statement : Statement} (h : statement ∈ (ofObject m strict object).entities) :
    statement.matched = [] := by
  unfold ofObject at h
  split at h
  · next c hc =>
    obtain hstatement := Option.mem_toList.mp h
    exact convertObject_entities_matched hc hstatement
  · exact absurd h List.not_mem_nil

namespace Loader

/-- **Objects are loaded before what refers to them.** Whatever the mapping, the objects and their
order, the size of the batches and the answers of the store, the statements of the first slot match
nothing, and the calls that the store gets are those for the first slot, then those for the second,
then those for the last. The calls for each slot go through the statements of the objects in the
order of the objects, and all are settled before the next slot begins. (A statement without a text
is never sent.) -/
theorem loadCollection_in_order {σ : Type} (store : Store σ) (size : Nat) (m : Mapping)
    (strict : Bool) (objects : List Members) (s : σ) :
    let collection := Collection.ofObjects m strict objects
    let slot (part : Collection → List Statement) :=
      objects.flatMap fun object => part (.ofObject m strict object)
    (∀ statement ∈ collection.entities, statement.matched = []) ∧
      ∃ entities relations embedded,
        loadCollection store.recorded (ofSize size) collection (s, []) =
          ((loadCollection store (ofSize size) collection s).1,
            (loadCollection store (ofSize size) collection s).2,
            entities ++ relations ++ embedded) ∧
        GoesThrough (textsOf (slot Collection.entities)) entities ∧
        GoesThrough (textsOf (slot Collection.relations)) relations ∧
        GoesThrough (textsOf (slot Collection.embedded)) embedded := by
  intro collection slot
  obtain ⟨hentities, hrelations, hembedded⟩ := Collection.ofObjects_eq m strict objects
  refine ⟨fun statement hstatement => ?_, ?_⟩
  · rw [hentities] at hstatement
    obtain ⟨object, -, hstatement⟩ := List.mem_flatMap.mp hstatement
    exact Collection.entities_matched hstatement
  · -- three runs, each from the store and the log that the one before it has left
    obtain ⟨entities, hrun, hfirst⟩ :=
      loadStatements_goesThrough store size collection.entities s []
    obtain ⟨relations, hrun', hsecond⟩ := loadStatements_goesThrough store size
      collection.relations (loadStatements store (ofSize size) collection.entities s).2 entities
    obtain ⟨embedded, hrun'', hlast⟩ := loadStatements_goesThrough store size collection.embedded
      (loadStatements store (ofSize size) collection.relations
        (loadStatements store (ofSize size) collection.entities s).2).2 (entities ++ relations)
    rw [List.nil_append] at hrun
    rw [hentities] at hfirst
    rw [hrelations] at hsecond
    rw [hembedded] at hlast
    refine ⟨entities, relations, embedded, ?_, hfirst, hsecond, hlast⟩
    rw [loadCollection, hrun]
    simp only [hrun', hrun'']
    rfl

end Loader

end ThreatGraph
