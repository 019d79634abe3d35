import Motif.Handler

/-! Rule tables: pattern texts with their handlers, in order. -/

namespace Motif

/-- A pattern text with the handler for the values it accepts. -/
structure Rule where
  pattern : String
  handler : Handler

/-- Rules in the order in which they are tried. -/
structure RuleTable where
  rules : List Rule

namespace RuleTable

/-- The table without rules. -/
def empty : RuleTable := ⟨[]⟩

/-- A table with one more rule at its end. -/
def push (table : RuleTable) (rule : Rule) : RuleTable :=
  ⟨table.rules ++ [rule]⟩

instance : Append RuleTable := ⟨fun first second => ⟨first.rules ++ second.rules⟩⟩

/-- The number of rules. -/
def length (table : RuleTable) : Nat :=
  table.rules.length

/-- Whether there is no rule. -/
def isEmpty (table : RuleTable) : Bool :=
  table.rules.isEmpty

/-- The outline of a table. -/
def outline (table : RuleTable) : String :=
  -- A rule is shown as a pair, which has no name.
  recorded "RuleTable" [("rules", bracketed (table.rules.map fun rule =>
    applied "" [visibleQuoted rule.pattern, rule.handler.outline]))]

end RuleTable

end Motif
