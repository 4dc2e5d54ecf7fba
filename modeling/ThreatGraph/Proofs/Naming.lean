import Mathlib.Data.List.Nodup
import ThreatGraph.Graph.Variables

/-!
# Runs of naming computations

A computation that hands out variables is run on a supply. `outcome` is its result together with
the supply that it leaves, also where it fails. The laws below say what the outcome of each way to
put computations together is; `bind_eq_ok` takes a successful sequence apart.

No two numbers have the same variable (`nameOf_injective`). The variables that are handed out while
one supply becomes another are those `between` the two.
-/

namespace ThreatGraph

/-! ## Names of variables -/

namespace Variables

/-- Different numbers have different variables. -/
theorem nameOf_injective : Function.Injective nameOf := by
  intro a b h
  have hdigits : a.repr = b.repr := (String.append_right_inj "v").mp h
  calc a = Nat.ofDigitChars 10 a.repr.toList 0 := by simp
    _ = Nat.ofDigitChars 10 b.repr.toList 0 := by rw [hdigits]
    _ = b := by simp

theorem nameOf_ne_empty (n : Nat) : nameOf n ≠ "" := by
  simp [nameOf]

/-- The variables that are handed out while one supply becomes another. -/
def between (v w : Variables) : List String :=
  (List.range' v.issued (w.issued - v.issued)).map nameOf

/-- A variable was handed out between two supplies if its number is. -/
theorem mem_between {v w : Variables} {x : String} :
    x ∈ between v w ↔ ∃ n, v.issued ≤ n ∧ n < w.issued ∧ nameOf n = x := by
  simp only [between, List.mem_map, List.mem_range'_1]
  constructor
  · rintro ⟨n, ⟨hle, hlt⟩, hx⟩
    exact ⟨n, hle, by omega, hx⟩
  · rintro ⟨n, hle, hlt, hx⟩
    exact ⟨n, ⟨hle, by omega⟩, hx⟩

theorem nodup_between (v w : Variables) : (between v w).Nodup :=
  List.Nodup.map nameOf_injective List.nodup_range'

@[simp] theorem between_self (v : Variables) : between v v = [] := by
  simp [between]

/-- What is handed out in two steps is handed out in all. -/
theorem between_append {u v w : Variables} (huv : u.issued ≤ v.issued)
    (hvw : v.issued ≤ w.issued) : between u v ++ between v w = between u w := by
  have hsplit : w.issued - u.issued = (v.issued - u.issued) + (w.issued - v.issued) := by omega
  rw [between, between, between, ← List.map_append, hsplit, ← List.range'_append_1,
    show u.issued + (v.issued - u.issued) = v.issued by omega]

end Variables

/-! ## Results -/

/-- What follows a success starts from its result. -/
theorem except_ok_bind {ε α β : Type} (a : α) (f : α → Except ε β) :
    (Except.ok a >>= f) = f a := rfl

/-- A sequence of results succeeds exactly if both its parts do. -/
theorem except_bind_eq_ok {ε α β : Type} {x : Except ε α} {f : α → Except ε β} {b : β} :
    x >>= f = .ok b ↔ ∃ a, x = .ok a ∧ f a = .ok b := by
  cases x with
  | error e => simp [bind, Except.bind]
  | ok a => simp [bind, Except.bind]

/-- A sequence of results fails exactly if its first part does, or its second on the first's. -/
theorem except_bind_eq_error {ε α β : Type} {x : Except ε α} {f : α → Except ε β} {e : ε} :
    x >>= f = .error e ↔ x = .error e ∨ ∃ a, x = .ok a ∧ f a = .error e := by
  cases x with
  | error e' => simp [bind, Except.bind]
  | ok a => simp [bind, Except.bind]

/-! ## Outcomes -/

namespace Naming

variable {ε ε' α β : Type}

/-- What a computation makes of a supply: its result, and the supply that it leaves. -/
def outcome (x : Naming ε α) (v : Variables) : Except ε α × Variables := x.run.run v

@[simp] theorem outcome_pure (a : α) (v : Variables) :
    (pure a : Naming ε α).outcome v = (.ok a, v) := rfl

@[simp] theorem outcome_throw (e : ε) (v : Variables) :
    (throw e : Naming ε α).outcome v = (.error e, v) := rfl

@[simp] theorem outcome_fresh (v : Variables) :
    (fresh : Naming ε String).outcome v =
      (.ok (Variables.nameOf v.issued), ⟨v.issued + 1⟩) := rfl

@[simp] theorem outcome_ofExcept (result : Except ε α) (v : Variables) :
    (ofExcept result).outcome v = (result, v) := rfl

@[simp] theorem outcome_mapError (f : ε → ε') (x : Naming ε α) (v : Variables) :
    (mapError f x).outcome v = ((x.outcome v).1.mapError f, (x.outcome v).2) := rfl

@[simp] theorem outcome_attempt (x : Naming ε α) (v : Variables) :
    (x.attempt : Naming ε' (Except ε α)).outcome v = (.ok (x.outcome v).1, (x.outcome v).2) := rfl

/-- What follows a computation starts from the supply that it has left. -/
theorem outcome_bind (x : Naming ε α) (f : α → Naming ε β) (v : Variables) :
    (x >>= f).outcome v =
      match x.outcome v with
      | (.ok a, u) => (f a).outcome u
      | (.error e, u) => (.error e, u) := by
  change (match x.run.run v with | (a, u) => ExceptT.bindCont f a u) = _
  rcases h : x.run.run v with ⟨_ | a, u⟩ <;> simp only [outcome, h] <;> rfl

/-- A result that is there is what the next step starts from. -/
theorem ofExcept_ok_bind (a : α) (next : α → Naming ε β) : ofExcept (.ok a) >>= next = next a := rfl

/-- A sequence succeeds exactly if both its parts do, one on the supply that the other leaves. -/
theorem bind_eq_ok {x : Naming ε α} {f : α → Naming ε β} {v w : Variables} {b : β} :
    (x >>= f).outcome v = (.ok b, w) ↔
      ∃ a u, x.outcome v = (.ok a, u) ∧ (f a).outcome u = (.ok b, w) := by
  rw [outcome_bind]
  rcases x.outcome v with ⟨_ | a, u⟩
  · simp
  · simp only [Prod.mk.injEq, Except.ok.injEq]
    exact ⟨fun h => ⟨a, u, ⟨rfl, rfl⟩, h⟩, by rintro ⟨_, _, ⟨rfl, rfl⟩, h⟩; exact h⟩

/-- A sequence fails exactly if its first part does, or its second after the first succeeded. -/
theorem bind_fails {x : Naming ε α} {f : α → Naming ε β} {v : Variables} {e : ε} :
    ((x >>= f).outcome v).1 = .error e ↔
      (x.outcome v).1 = .error e ∨
        ∃ a u, x.outcome v = (.ok a, u) ∧ ((f a).outcome u).1 = .error e := by
  rw [outcome_bind]
  rcases x.outcome v with ⟨d | a, u⟩
  · simp
  · simp only [reduceCtorEq, Prod.mk.injEq, Except.ok.injEq, false_or]
    exact ⟨fun h => ⟨a, u, ⟨rfl, rfl⟩, h⟩, by rintro ⟨_, _, ⟨rfl, rfl⟩, h⟩; exact h⟩

/-- A computation that gives a result succeeds with it. -/
theorem pure_eq_ok {a b : α} {v w : Variables} :
    (pure a : Naming ε α).outcome v = (.ok b, w) ↔ a = b ∧ v = w := by
  simp

/-- A computation that fails does not succeed. -/
theorem throw_ne_ok {e : ε} {a : α} {v w : Variables} :
    (throw e : Naming ε α).outcome v ≠ (.ok a, w) := by
  simp

theorem fresh_eq_ok {x : String} {v w : Variables} :
    (fresh : Naming ε String).outcome v = (.ok x, w) ↔
      Variables.nameOf v.issued = x ∧ ⟨v.issued + 1⟩ = w := by
  simp

/-- A result without variables succeeds if it is a success. -/
theorem ofExcept_eq_ok {result : Except ε α} {a : α} {v w : Variables} :
    (ofExcept result).outcome v = (.ok a, w) ↔ result = .ok a ∧ v = w := by
  simp

/-- A failure that is put as another is still a failure. -/
theorem mapError_eq_ok {f : ε → ε'} {x : Naming ε α} {a : α} {v w : Variables} :
    (mapError f x).outcome v = (.ok a, w) ↔ x.outcome v = (.ok a, w) := by
  rw [outcome_mapError]
  rcases x.outcome v with ⟨_ | b, u⟩ <;> simp [Except.mapError]

end Naming

end ThreatGraph
