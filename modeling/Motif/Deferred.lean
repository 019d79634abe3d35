import Motif.Text.Outline
import Motif.Value

/-! Computations that run only when they are asked to. -/

namespace Motif

/-- A computation of a value with effects in `m`. -/
structure Deferred (m : Type → Type) where
  execute : m Value

namespace Deferred

variable {m : Type → Type} [Monad m]

/-- The computation that gives a value at once. -/
def of (value : Value) : Deferred m :=
  ⟨pure value⟩

/-- Runs a computation, then a function on its value. -/
def map (deferred : Deferred m) (change : Value → m Value) : Deferred m :=
  ⟨deferred.execute >>= change⟩

/-- Runs a computation, then the one that a function makes of its value. -/
def bind (deferred : Deferred m) (continuation : Value → m (Deferred m)) : Deferred m :=
  -- The second computation is not even made before the first has run.
  ⟨do
    let value ← deferred.execute
    let following ← continuation value
    following.execute⟩

/-- The name of the type of deferred computations. -/
def typeName : String := "IO"

/-- The outline of a computation, which tells nothing about it. -/
def outline : String := recordedInPart "Io" []

/-- The object that stands for a computation among values. -/
def nominal (identity : Nat) (deferred : Deferred Id) : Nominal Value :=
  ⟨identity, typeName, deferred.execute.run, outline⟩

end Deferred

end Motif
