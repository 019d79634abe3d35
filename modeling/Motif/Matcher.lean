import Motif.Clause

/-! Matchers: rule tables that were checked once and can be applied again and again. -/

namespace Motif

/-- Clauses in the order in which they are tried. -/
structure Matcher where
  clauses : List Clause

namespace Matcher

/-- Checks a whole table under some options. -/
def buildWith (options : PatternOptions) (table : RuleTable) : Except EvalError Matcher :=
  (Clause.ofTable options table).map Matcher.mk

/-- Checks a whole table. -/
def build (table : RuleTable) : Except EvalError Matcher :=
  buildWith {} table

/-- Applies a matcher to a value. -/
def call (matcher : Matcher) (value : Value) : Outcome :=
  select matcher.clauses value

/-- Applies a matcher to arguments taken as one list. -/
def callArguments (matcher : Matcher) (arguments : List Value) : Outcome :=
  matcher.call (.list arguments)

/-- The text and the arity of every clause. -/
def arities (matcher : Matcher) : List (String × Nat) :=
  matcher.clauses.map fun clause => (clause.text, clause.arity)

end Matcher

/-- Options and rules that a matcher is going to be built from. -/
structure MatcherBuilder where
  options : PatternOptions := {}
  table : RuleTable := .empty

namespace MatcherBuilder

/-- One step in preparing a matcher. -/
inductive Step where
  /-- Replaces the options. -/
  | options (options : PatternOptions)
  /-- Restricts type tags to some names, besides those of earlier restrictions. -/
  | knownTypes (names : List String)
  /-- Adds a rule at the end. -/
  | clause (rule : Rule)
  /-- Adds all rules of a table at the end. -/
  | rules (table : RuleTable)

/-- Takes one step. -/
def step (builder : MatcherBuilder) : Step → MatcherBuilder
  | .options options => { builder with options }
  | .knownTypes names => { builder with options := builder.options.withKnownTypes names }
  | .clause rule => { builder with table := builder.table.push rule }
  | .rules table => { builder with table := builder.table ++ table }

/-- The builder that some steps lead to. -/
def ofSteps (steps : List Step) : MatcherBuilder :=
  steps.foldl step {}

/-- Checks all rules under the options reached in the end. -/
def build (builder : MatcherBuilder) : Except EvalError Matcher :=
  Matcher.buildWith builder.options builder.table

end MatcherBuilder

end Motif
