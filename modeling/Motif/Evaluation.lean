import Motif.Matcher

/-! Evaluating a rule table on one value without keeping a matcher. -/

namespace Motif

/-- A family of clauses that belong to values of one shape. -/
inductive MatcherKind where
  /-- Literals, for scalars. -/
  | literal
  /-- Cons patterns and lists, for lists. -/
  | array
  /-- Type tags, for objects. -/
  | object
  deriving DecidableEq

namespace MatcherKind

/-- What a family is called. -/
def name : MatcherKind → String
  | literal => "literal"
  | array => "array"
  | object => "object"

/-- The family for values of a shape. -/
def ofShape : ValueShape → MatcherKind
  | .scalar => literal
  | .sequence => array
  | .nominal => object

/-- The shape that a family is for. -/
def shape : MatcherKind → ValueShape
  | literal => .scalar
  | array => .sequence
  | object => .nominal

/-- Whether clauses of a form take part; wildcards always do. -/
def admits (kind : MatcherKind) (form : PatternKind) : Bool :=
  form.accepts kind.shape

end MatcherKind

namespace RuleTable

/-- The result of the first clause of a family that accepts a value, when no rule is bad. -/
def evaluate (table : RuleTable) (kind : MatcherKind) (value : Value) : Outcome :=
  -- Every rule is checked, also one whose clause does not take part.
  match Clause.ofTable {} table with
  | .error error => .error error
  | .ok clauses => select (clauses.filter fun clause => kind.admits clause.pattern.kind) value

/-- Evaluates the clauses of the family that a value's shape selects. -/
def matchOnce (table : RuleTable) (value : Value) : Outcome :=
  table.evaluate (.ofShape value.shape) value

end RuleTable

/-- Every pattern text with the number of values it binds; the first bad text decides. -/
def patternArities (texts : List String) : Except EvalError (List (String × Nat)) :=
  texts.mapM fun text =>
    match Pattern.parse text with
    | .error error => .error (.malformedPattern error)
    | .ok pattern => .ok (text, pattern.arity)

end Motif
