import Motif.Proofs.Arguments

/-!
Rules that are turned down.

The first of them decides what a table gives, for every value and whatever the handlers do.
-/

namespace Motif

/-- How many values a pattern has for a handler: one for each name, or the object itself. -/
def Pattern.offered : Pattern → Nat
  | .typeTag _ => 1
  | pattern => pattern.binders.length

/-- The reasons to turn a rule down, with the error that each of them gives. -/
inductive Rule.Refused (options : PatternOptions) (rule : Rule) : EvalError → Prop
  /-- The text of the rule is no pattern. -/
  | malformed {error : PatternError}
      (unread : Pattern.parseWith options rule.pattern = .error error) :
      Refused options rule (.malformedPattern error)
  /-- The handler asks for more values than the pattern has for it. -/
  | greedy {pattern : Pattern} (read : Pattern.parseWith options rule.pattern = .ok pattern)
      (short : pattern.offered < rule.handler.arity) :
      Refused options rule (.handlerArity rule.pattern pattern.offered rule.handler.arity)

/-- What of a rule is looked at before it is used: all but what its handler does. -/
def Rule.signature (rule : Rule) : String × Nat :=
  (rule.pattern, rule.handler.arity)

/-- Whether an error is one that a rule is turned down with. -/
def EvalError.RefusesRule : EvalError → Prop
  | malformedPattern _ | handlerArity .. => True
  | noMatchingClause _ | destructure .. | unboundVariable _ | custom _ => False

/-- Asked for the subject too, the arity of a pattern is what it has for a handler. -/
theorem Pattern.arityWithSubject_true (pattern : Pattern) :
    pattern.arityWithSubject true = pattern.offered := by
  -- A type tag has the object in place of names, and all other patterns have their names.
  cases pattern with
  | typeTag name => rfl
  | wildcard => rfl
  | literal value => rfl
  | cons parts => exact (length_binders (.cons parts)).symm
  | list slots => exact (length_binders (.list slots)).symm

namespace Clause

/-- A rule with a pattern makes a clause when its handler asks for no more than there is. -/
theorem ofRule_of_parseWith {options : PatternOptions} {rule : Rule} {pattern : Pattern}
    (read : Pattern.parseWith options rule.pattern = .ok pattern) :
    ofRule options rule =
      if pattern.offered < rule.handler.arity then
        .error (.handlerArity rule.pattern pattern.offered rule.handler.arity)
      else
        .ok ⟨rule.pattern, pattern, pattern.arityWithSubject (0 < rule.handler.arity),
          rule.handler⟩ := by
  simp only [ofRule, read]
  -- A handler that asks for nothing is never refused, and any other has the subject on offer.
  rcases Nat.eq_zero_or_pos rule.handler.arity with none | asked
  · rw [none, if_neg (Nat.not_lt_zero _), if_neg (Nat.not_lt_zero _)]
  · rw [decide_eq_true asked, pattern.arityWithSubject_true]

/-- A rule makes no clause exactly when there is a reason to turn it down. -/
theorem ofRule_eq_error_iff {options : PatternOptions} {rule : Rule} {error : EvalError} :
    ofRule options rule = .error error ↔ rule.Refused options error := by
  constructor
  · intro done
    -- The text is read before the handler is looked at.
    cases read : Pattern.parseWith options rule.pattern with
    | error fault =>
      simp only [ofRule, read] at done
      cases done
      exact .malformed read
    | ok pattern =>
      rw [ofRule_of_parseWith read] at done
      by_cases short : pattern.offered < rule.handler.arity
      · rw [if_pos short] at done
        cases done
        exact .greedy read short
      · rw [if_neg short] at done
        cases done
  · intro refused
    cases refused with
    | malformed unread => simp only [ofRule, unread]
    | greedy read short => rw [ofRule_of_parseWith read, if_pos short]

/-- A rule that there is no reason to turn down makes a clause. -/
theorem exists_ofRule_eq_ok {options : PatternOptions} {rule : Rule}
    (sound : ∀ error, ¬ rule.Refused options error) :
    ∃ clause, ofRule options rule = .ok clause := by
  -- Were there no clause, there would be an error, and that is a reason.
  cases done : ofRule options rule with
  | ok clause => exact ⟨clause, rfl⟩
  | error error => exact absurd (ofRule_eq_error_iff.mp done) (sound error)

end Clause

/-- Rules of the same signature are turned down for the same reasons. -/
theorem Rule.Refused.of_signature_eq {options : PatternOptions} {left right : Rule}
    {error : EvalError} (refused : left.Refused options error)
    (same : right.signature = left.signature) : right.Refused options error := by
  obtain ⟨text, arity⟩ := Prod.mk.inj same
  -- Every reason speaks of the text and of the number of values, and of nothing else.
  cases refused with
  | malformed unread => exact .malformed (text ▸ unread)
  | greedy read short =>
    rw [← text, ← arity]
    exact .greedy (text ▸ read) (arity ▸ short)

namespace RuleTable

/-- The first rule of a table that is turned down, with the error that says why. -/
structure FirstRefused (options : PatternOptions) (table : RuleTable) (index : Nat) (rule : Rule)
    (error : EvalError) : Prop where
  found : table.rules[index]? = some rule
  refused : rule.Refused options error
  first : ∀ place < index, ∀ earlier, table.rules[place]? = some earlier →
    ∀ other, ¬ earlier.Refused options other

/-- Whether two tables have rules of the same signatures up to some place. -/
def AgreeThrough (index : Nat) (left right : RuleTable) : Prop :=
  ∀ place ≤ index,
    (left.rules[place]?).map Rule.signature = (right.rules[place]?).map Rule.signature

/-- A table with a rule that is turned down has a first such rule. -/
theorem exists_firstRefused {options : PatternOptions} {table : RuleTable}
    (bad : ∃ rule ∈ table.rules, ∃ error, rule.Refused options error) :
    ∃ index rule error, table.FirstRefused options index rule error := by
  classical
  obtain ⟨rule, member, error, refused⟩ := bad
  obtain ⟨index, stands⟩ := List.mem_iff_getElem?.mp member
  -- Of all places with a bad rule, the least one has no other before it.
  have some : ∃ (place : Nat) (rule : Rule) (error : EvalError),
      table.rules[place]? = some rule ∧ rule.Refused options error :=
    ⟨index, rule, error, stands, refused⟩
  obtain ⟨first, reason, found, own⟩ := Nat.find_spec some
  refine ⟨Nat.find some, first, reason, found, own, ?_⟩
  intro place before earlier stands other refused
  exact Nat.find_min some before ⟨earlier, other, stands, refused⟩

/-- The first rule that is turned down decides that a table makes no clauses. -/
theorem FirstRefused.ofTable_eq {options : PatternOptions} {table : RuleTable} {index : Nat}
    {rule : Rule} {error : EvalError} (first : table.FirstRefused options index rule error) :
    Clause.ofTable options table = .error error := by
  -- All rules before it make clauses, so it is the first one to fail.
  apply mapM_eq_error_of_first first.found (Clause.ofRule_eq_error_iff.mpr first.refused)
  intro place before earlier stands
  exact Clause.exists_ofRule_eq_ok (first.first place before earlier stands)

/-- A table that agrees with another one through its first bad rule has that rule first too. -/
theorem FirstRefused.of_agreeThrough {options : PatternOptions} {table other : RuleTable}
    {index : Nat} {rule : Rule} {error : EvalError}
    (first : table.FirstRefused options index rule error)
    (agree : AgreeThrough index other table) :
    ∃ own, other.FirstRefused options index own error := by
  have here := agree index (Nat.le_refl index)
  rw [first.found] at here
  obtain ⟨own, stands, same⟩ := Option.map_eq_some_iff.mp here
  refine ⟨own, stands, first.refused.of_signature_eq same, ?_⟩
  intro place before earlier stands reason refused
  -- An earlier bad rule would have a twin in the first table, which has none there.
  have there := agree place (Nat.le_of_lt before)
  rw [stands] at there
  obtain ⟨twin, found, same⟩ := Option.map_eq_some_iff.mp there.symm
  exact first.first place before twin found reason (refused.of_signature_eq same)

/-- A table without bad rules makes a matcher. -/
theorem exists_build_eq_ok {options : PatternOptions} {table : RuleTable}
    (sound : ∀ rule ∈ table.rules, ∀ error, ¬ rule.Refused options error) :
    ∃ matcher, Matcher.buildWith options table = .ok matcher := by
  -- Clauses are made rule by rule.
  obtain ⟨clauses, done⟩ : ∃ clauses, Clause.ofTable options table = .ok clauses :=
    exists_mapM_eq_ok fun rule member => Clause.exists_ofRule_eq_ok (sound rule member)
  exact ⟨⟨clauses⟩, map_eq_ok_iff.mpr ⟨clauses, done, rfl⟩⟩

/-- A table cannot be built exactly when it has a first bad rule, which gives the error. -/
theorem buildWith_eq_error_iff {options : PatternOptions} {table : RuleTable} {error : EvalError} :
    Matcher.buildWith options table = .error error ↔
      ∃ index rule, table.FirstRefused options index rule error := by
  -- One direction is the decision of the first bad rule, which the other direction finds.
  have decides {index : Nat} {rule : Rule} {reason : EvalError}
      (first : table.FirstRefused options index rule reason) :
      Matcher.buildWith options table = .error reason := by
    rw [Matcher.buildWith, first.ofTable_eq]
    rfl
  constructor
  · intro failed
    by_cases bad : ∃ rule ∈ table.rules, ∃ reason, rule.Refused options reason
    · obtain ⟨index, rule, reason, first⟩ := exists_firstRefused bad
      obtain rfl := Except.error.inj ((decides first).symm.trans failed)
      exact ⟨index, rule, first⟩
    · -- Without a bad rule there would be a matcher.
      push Not at bad
      obtain ⟨matcher, built⟩ := exists_build_eq_ok bad
      cases built.symm.trans failed
  · rintro ⟨index, rule, first⟩
    exact decides first

end RuleTable

/-- When a table can be built, an error that refuses a rule comes from the selected handler. -/
theorem EntryPoint.exists_selected_of_refusal {own : PatternOptions} {table : RuleTable}
    {matcher : Matcher} {error : EvalError} (entry : EntryPoint)
    (built : Matcher.buildWith (entry.options own) table = .ok matcher)
    (failed : entry.outcome own table = .error error) (refuses : error.RefusesRule) :
    ∃ index clause bindings,
      Selected entry.takesPart entry.value matcher.clauses index clause bindings ∧
        clause.handler.run (clause.passed entry.value bindings) = .error error := by
  -- A table that was built gives what its selection gives.
  rw [entry.outcome_eq_select built] at failed
  rcases exists_selected_or_unmatched entry.takesPart entry.value matcher.clauses with
    selected | unmatched
  · obtain ⟨index, clause, bindings, selected⟩ := selected
    rw [selected.select_eq] at failed
    exact ⟨index, clause, bindings, selected, failed⟩
  · -- Without a selected clause the error says that nothing matched, which refuses no rule.
    rw [unmatched] at failed
    cases failed
    exact absurd refuses id

/--
A bad rule decides what its table gives before any value is looked at and any handler is run.

The first one in table order gives the error, in every table that has rules of the same signatures
up to it, and neither the value nor a handler has a say in it.
Where no rule is bad, only the selected handler can give an error of that kind.
-/
theorem first_bad_rule_decides_evaluation (table : RuleTable) :
    ((∃ rule ∈ table.rules, ∃ error, rule.Refused {} error) →
      ∃ index rule error, table.FirstRefused {} index rule error) ∧
    (∀ index rule error, table.FirstRefused {} index rule error →
      Clause.ofRule {} rule = .error error ∧
        ∀ other : RuleTable, RuleTable.AgreeThrough index other table →
          Matcher.build other = .error error ∧
            ∀ value, other.matchOnce value = .error error ∧
              ∀ kind, other.evaluate kind value = .error error) ∧
    ((∀ rule ∈ table.rules, ∀ error, ¬ rule.Refused {} error) →
      ∃ matcher, Matcher.build table = .ok matcher ∧
        ∀ (entry : EntryPoint) (error : EvalError),
          entry.outcome {} table = .error error → error.RefusesRule →
            ∃ index clause bindings,
              Selected entry.takesPart entry.value matcher.clauses index clause bindings ∧
                table.rules[index]? = some ⟨clause.text, clause.handler⟩ ∧
                clause.handler.run (clause.passed entry.value bindings) = .error error) := by
  -- The first bad rule is found, it decides, and without one the selection does.
  refine ⟨RuleTable.exists_firstRefused, ?_, ?_⟩
  · intro index rule error first
    refine ⟨Clause.ofRule_eq_error_iff.mpr first.refused, ?_⟩
    intro other agree
    obtain ⟨own, decides⟩ := first.of_agreeThrough agree
    have failed : Clause.ofTable {} other = .error error := decides.ofTable_eq
    -- Every way to apply a table makes its clauses first, and there the evaluation ends.
    have evaluated (kind : MatcherKind) (value : Value) :
        other.evaluate kind value = .error error := by
      rw [RuleTable.evaluate, failed]
    refine ⟨?_, ?_⟩
    · rw [Matcher.build, Matcher.buildWith, failed]
      rfl
    · intro value
      exact ⟨evaluated (.ofShape value.shape) value, fun kind => evaluated kind value⟩
  · intro sound
    obtain ⟨matcher, built⟩ := RuleTable.exists_build_eq_ok sound
    refine ⟨matcher, built, ?_⟩
    intro entry error failed refuses
    have own : Matcher.buildWith (entry.options {}) table = .ok matcher := by
      cases entry <;> exact built
    obtain ⟨index, clause, bindings, selected, ran⟩ :=
      entry.exists_selected_of_refusal own failed refuses
    exact ⟨index, clause, bindings, selected, (Matcher.exists_rule built selected.found).1, ran⟩

/-- A handler that asks for too much fails the table, though the rule before it would answer. -/
theorem first_bad_rule_decides_evaluation_of_greedy :
    let all : Rule := ⟨"_", .nullary fun _ => .ok .null⟩
    let greedy : Rule := ⟨"(x:_)", .binary fun _ _ => .ok .null⟩
    let table : RuleTable := ⟨[all, greedy, ⟨"(x)", .unary .ok⟩]⟩
    let error : EvalError := .handlerArity "(x:_)" 1 2
    table.FirstRefused {} 1 greedy error ∧ Matcher.build table = .error error ∧
      table.matchOnce (.bool true) = .error error := by
  intro all greedy table error
  have any : Pattern.parseWith {} all.pattern = .ok .wildcard := by cbv
  have one : Pattern.parseWith {} greedy.pattern = .ok (.cons ⟨["x"], .wildcard⟩) := by cbv
  have refused := Rule.Refused.greedy one (show 1 < 2 by decide)
  have first : table.FirstRefused {} 1 greedy error := by
    refine ⟨rfl, refused, ?_⟩
    intro place before earlier stands other unfit
    obtain rfl : place = 0 := by omega
    obtain rfl : all = earlier := Option.some.inj stands
    -- The rule in front has a pattern, and its handler asks for nothing.
    cases unfit with
    | malformed unread => cases any.symm.trans unread
    | greedy read short => exact Nat.not_lt_zero _ short
  have decided := ((first_bad_rule_decides_evaluation table).2.1 1 greedy error first).2 table
    fun _ _ => rfl
  exact ⟨first, decided.1, (decided.2 (.bool true)).1⟩

end Motif
