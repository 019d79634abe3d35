import Motif.Matching
import Motif.Pattern.Parse
import Motif.RuleTable

/-! Clauses: rules whose pattern was read and whose handler fits it. -/

namespace Motif

/-- A rule that is ready to be tried. -/
structure Clause where
  /-- The pattern as the rule writes it. -/
  text : String
  pattern : Pattern
  /-- The number of values that a match has for the handler. -/
  arity : Nat
  handler : Handler

namespace Clause

/-- Reads the pattern of a rule and checks that it binds as much as the handler asks for. -/
def ofRule (options : PatternOptions) (rule : Rule) : Except EvalError Clause :=
  match Pattern.parseWith options rule.pattern with
  | .error error => .error (.malformedPattern error)
  | .ok pattern =>
    -- A handler that asks for anything makes a type tag offer the object.
    let arity := pattern.arityWithSubject (0 < rule.handler.arity)
    if arity < rule.handler.arity then
      .error (.handlerArity rule.pattern arity rule.handler.arity)
    else .ok ⟨rule.pattern, pattern, arity, rule.handler⟩

/-- The clauses of a table, unless some rule is bad; the first bad rule decides. -/
def ofTable (options : PatternOptions) (table : RuleTable) : Except EvalError (List Clause) :=
  table.rules.mapM (ofRule options)

/-- The values that a match hands to the handler; a type tag hands out the object itself. -/
def arguments (clause : Clause) (value : Value) (bindings : Bindings) : List Value :=
  match clause.pattern with
  | .typeTag _ => if 0 < clause.handler.arity then [value] else bindings.values
  | _ => bindings.values

/-- The result of the handler, when the pattern accepts a value. -/
def invoke? (clause : Clause) (value : Value) : Option Outcome :=
  -- An error of the handler is a result: the clause has been chosen by then.
  (clause.pattern.match? value).map fun bindings =>
    clause.handler.invoke (clause.arguments value bindings)

end Clause

/-- The result of the first clause that accepts a value. -/
def select (clauses : List Clause) (value : Value) : Outcome :=
  -- Order alone decides between clauses that both accept a value.
  (clauses.findSome? fun clause => clause.invoke? value).getD (.error (.unmatched value))

end Motif
