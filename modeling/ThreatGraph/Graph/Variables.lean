/-!
# Scratch variables

The things of one statement are told apart by scratch variables `v0`, `v1`, … . A supply counts
how many it has handed out. `Naming` is a computation that draws on a supply and may fail; what
was handed out before a failure stays handed out.
-/

namespace ThreatGraph

/-- A supply of scratch variables. -/
structure Variables where
  /-- how many have been handed out -/
  issued : Nat := 0
  deriving DecidableEq, Repr

namespace Variables

/-- The variable of a number. -/
def nameOf (n : Nat) : String := "v" ++ toString n

/-- The next variable and the supply after it. -/
def next (v : Variables) : String × Variables := (nameOf v.issued, ⟨v.issued + 1⟩)

end Variables

/-- A computation that hands out variables and may fail with an `ε`. -/
abbrev Naming (ε : Type) := ExceptT ε (StateM Variables)

namespace Naming

variable {ε ε' α : Type}

/-- A variable that was not handed out before. -/
def fresh : Naming ε String := modifyGet Variables.next

/-- A result that needs no variable. -/
def ofExcept (result : Except ε α) : Naming ε α := ExceptT.mk (pure result)

/-- The computation with its failure put as another. -/
def mapError (f : ε → ε') (x : Naming ε α) : Naming ε' α := ExceptT.adapt f x

/-- The computation with its failure as a result. -/
def attempt (x : Naming ε α) : Naming ε' (Except ε α) := ExceptT.lift x.run

end Naming

end ThreatGraph
