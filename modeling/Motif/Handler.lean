import Motif.EvalError

/-! Handlers: what runs on the values that a match bound. -/

namespace Motif

/-- A function that runs on the values of a match. -/
structure Handler where
  /-- How many values the handler asks for. -/
  arity : Nat
  run : List Value → Outcome

namespace Handler

/-- A handler that needs no value. -/
def nullary (result : Unit → Outcome) : Handler :=
  -- Nothing is computed before the handler is run.
  ⟨0, fun _ => result ()⟩

/-- A handler of one value, which is null when it is missing. -/
def unary (run : Value → Outcome) : Handler :=
  ⟨1, fun arguments => run (arguments[0]?.getD .null)⟩

/-- A handler of two values, either of which is null when it is missing. -/
def binary (run : Value → Value → Outcome) : Handler :=
  ⟨2, fun arguments => run (arguments[0]?.getD .null) (arguments[1]?.getD .null)⟩

/-- Runs a handler on no more values than it asks for. -/
def invoke (handler : Handler) (arguments : List Value) : Outcome :=
  -- The first values are those that stand leftmost in the pattern.
  handler.run (arguments.take handler.arity)

/-- The outline of a handler, which tells its arity alone. -/
def outline (handler : Handler) : String :=
  recordedInPart "Handler" [("arity", countText handler.arity)]

end Handler

end Motif
