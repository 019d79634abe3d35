import Motif.EvalError
import Motif.Matching
import Motif.Pattern.Parse

/-! Scoped destructuring: one pattern takes a value apart, and names ask for the parts. -/

namespace Motif

/-- A pattern with what it bound. -/
structure Scope where
  pattern : Pattern
  bindings : Bindings

namespace Scope

/-- Takes a value apart; a list pattern that ends in `_` passes over further elements. -/
def ofMatch (text : String) (value : Value) : Except EvalError Scope :=
  match Pattern.parse text with
  | .error error => .error (.malformedPattern error)
  | .ok pattern =>
    -- The error shows the pattern as it was written.
    match pattern.matchFront? value with
    | some bindings => .ok ⟨pattern, bindings⟩
    | none => .error (.notDestructured text value)

/-- The value of one name. -/
def lookup (scope : Scope) (name : String) : Outcome :=
  match scope.bindings.get? name with
  | some value => .ok value
  | none => .error (.unboundVariable name)

/-- The values of some names, in the order in which they are asked for. -/
def extract (scope : Scope) (names : List String) : Except EvalError (List Value) :=
  names.mapM scope.lookup

/-- Runs a function on the values of some names. -/
def apply {α : Type} (scope : Scope) (names : List String) (body : List Value → α) :
    Except EvalError α :=
  -- A name that is not bound keeps the function from running at all.
  (scope.extract names).map body

end Scope

end Motif
