import Motif.Pattern.Error
import Motif.Value.Text

/-! What can go wrong when a value is matched and handled. -/

namespace Motif

/-- The reasons why an evaluation fails. -/
inductive EvalError where
  /-- A text is not a pattern. -/
  | malformedPattern (error : PatternError)
  /-- No clause accepts a value. -/
  | noMatchingClause (value : String)
  /-- The only pattern there is does not accept a value. -/
  | destructure (pattern value : String)
  /-- A name is asked for that no pattern bound. -/
  | unboundVariable (name : String)
  /-- A handler asks for more values than its pattern binds. -/
  | handlerArity (pattern : String) (arity declared : Nat)
  /-- A failure that a handler reports in its own words. -/
  | custom (message : String)
  deriving DecidableEq

namespace EvalError

/-- The error for a value that no clause accepts, which keeps only the value's text. -/
def unmatched (value : Value) : EvalError :=
  noMatchingClause value.text

/-- The error for a value that a single pattern does not accept. -/
def notDestructured (pattern : String) (value : Value) : EvalError :=
  destructure pattern value.text

/-- The message for an error. -/
def message : EvalError → String
  | malformedPattern error => error.message
  | noMatchingClause value => "no clause matched value " ++ value
  | destructure pattern value => "pattern `" ++ pattern ++ "` does not match value " ++ value
  | unboundVariable name => "unbound variable `" ++ name ++ "`"
  | handlerArity pattern arity declared =>
    "handler for `" ++ pattern ++ "` takes " ++ countText declared ++
      " arguments, but the pattern binds " ++ countText arity
  | custom message => message

/-- The error in a pattern's text that lies behind an error, if any. -/
def patternError? : EvalError → Option PatternError
  | malformedPattern error => some error
  | _ => none

end EvalError

/-- A value, or why there is none. -/
abbrev Outcome := Except EvalError Value

end Motif
