import Mathlib
import Motif.Evaluation

/-!
Selection takes the first clause that accepts a value.

Sorting clauses out by their form beforehand changes nothing.
-/

namespace Motif

/-- A pattern that accepts a value belongs to values of its shape. -/
theorem Pattern.accepts_shape_of_matchBy? {rule : LengthRule} {pattern : Pattern} {value : Value}
    {bindings : Bindings} (matched : pattern.matchBy? rule value = some bindings) :
    pattern.kind.accepts value.shape = true := by
  -- Wherever the form and the shape do not go together, the match has already failed.
  cases pattern <;> cases value <;>
    simp_all [Pattern.matchBy?, Pattern.kind, Value.shape, PatternKind.accepts, Literal.accepts]

namespace Clause

/-- Whether a clause's pattern accepts a value. -/
def accepts (clause : Clause) (value : Value) : Bool :=
  -- Whatever is bound then, all that counts here is that something is.
  (clause.pattern.match? value).isSome

/-- The arguments that a clause's handler runs on. -/
def passed (clause : Clause) (value : Value) (bindings : Bindings) : List Value :=
  -- What the pattern binds beyond that is left out.
  (clause.arguments value bindings).take clause.handler.arity

/-- A clause whose pattern does not accept a value has no result for it. -/
theorem invoke?_eq_none_iff {clause : Clause} {value : Value} :
    clause.invoke? value = none ↔ clause.pattern.match? value = none := by
  -- Running a handler always has an outcome, so only the match can be missing.
  simp [invoke?]

/-- A clause whose pattern accepts a value runs its handler, and what that gives is the result. -/
theorem invoke?_of_match? {clause : Clause} {value : Value} {bindings : Bindings}
    (matched : clause.pattern.match? value = some bindings) :
    clause.invoke? value = some (clause.handler.run (clause.passed value bindings)) := by
  -- Once the pattern has accepted, the outcome of the handler is final.
  simp [invoke?, matched, Handler.invoke, passed]

end Clause

/-- Without clauses there is nothing that could accept a value. -/
theorem select_nil (value : Value) : select [] value = .error (.unmatched value) := rfl

/-- A clause that does not accept a value leaves it to the clauses behind. -/
theorem select_cons_of_none {clause : Clause} {value : Value} (clauses : List Clause)
    (missed : clause.pattern.match? value = none) :
    select (clause :: clauses) value = select clauses value := by
  -- The search goes on behind a clause that has no result.
  simp [select, Clause.invoke?_eq_none_iff.mpr missed]

/-- A clause that accepts a value decides, whatever stands behind it. -/
theorem select_cons_of_match? {clause : Clause} {value : Value} {bindings : Bindings}
    (clauses : List Clause) (matched : clause.pattern.match? value = some bindings) :
    select (clause :: clauses) value = clause.handler.run (clause.passed value bindings) := by
  -- The search ends at the first result, and later clauses are not asked.
  simp [select, Clause.invoke?_of_match? matched]

/-- Clauses that do not accept a value may be taken out before the selection. -/
theorem select_filter {takesPart : Clause → Bool} {clauses : List Clause} {value : Value}
    (kept : ∀ clause ∈ clauses, clause.accepts value → takesPart clause) :
    select (clauses.filter takesPart) value = select clauses value := by
  -- Going through the clauses in order, one that is taken out would have been passed over.
  induction clauses with
  | nil => rfl
  | cons clause rest ih =>
    have restKept := ih fun other member => kept other (List.mem_cons_of_mem _ member)
    -- What matters is whether the front clause accepts, for only then does it have to be kept.
    cases matched : clause.pattern.match? value with
    | none =>
      rw [select_cons_of_none rest matched, ← restKept]
      by_cases takes : takesPart clause = true
      · rw [List.filter_cons_of_pos takes, select_cons_of_none _ matched]
      · rw [List.filter_cons_of_neg takes]
    | some bindings =>
      have takes : takesPart clause = true :=
        kept clause (List.mem_cons_self ..) (by simp [Clause.accepts, matched])
      rw [List.filter_cons_of_pos takes, select_cons_of_match? _ matched,
        select_cons_of_match? _ matched]

/-- A clause that accepts a value belongs to the family for the value's shape. -/
theorem MatcherKind.admits_of_accepts {kind : MatcherKind} {clause : Clause} {value : Value}
    (own : kind.shape = value.shape) (accepted : clause.accepts value) :
    kind.admits clause.pattern.kind = true := by
  -- The family goes by the shape of the value, and so does the match.
  obtain ⟨bindings, matched⟩ := Option.isSome_iff_exists.mp accepted
  rw [MatcherKind.admits, own]
  exact Pattern.accepts_shape_of_matchBy? matched

/-- The family that a shape selects is the one for that shape. -/
theorem MatcherKind.shape_ofShape (shape : ValueShape) :
    (MatcherKind.ofShape shape).shape = shape := by
  -- There is one family for each of the three shapes.
  cases shape <;> rfl

/-- The family for a value's shape gives the result that all clauses together give. -/
theorem RuleTable.evaluate_eq_build_call {table : RuleTable} {kind : MatcherKind} {value : Value}
    (own : kind.shape = value.shape) :
    table.evaluate kind value = (Matcher.build table).bind fun matcher => matcher.call value := by
  simp only [RuleTable.evaluate, Matcher.build, Matcher.buildWith]
  -- Both read the same rules under the same options, so they fail alike.
  cases Clause.ofTable {} table with
  | error error => rfl
  | ok clauses =>
    show select (clauses.filter _) value = select clauses value
    exact select_filter fun clause _ accepted => MatcherKind.admits_of_accepts own accepted

/--
Evaluating a table at once and building a matcher first give the same result or the same error.

The family for the value's own shape keeps every clause that accepts the value, in order.
-/
theorem evaluate_agrees_with_matcher (table : RuleTable) (value : Value) :
    table.matchOnce value = ((Matcher.build table).bind fun matcher => matcher.call value) ∧
      ∀ kind : MatcherKind, kind.shape = value.shape →
        table.evaluate kind value = ((Matcher.build table).bind fun matcher => matcher.call value) ∧
          ∀ clauses : List Clause,
            (clauses.filter fun clause => kind.admits clause.pattern.kind).filter (·.accepts value) =
              clauses.filter (·.accepts value) := by
  -- Evaluating once is evaluating the family for the shape, so one argument serves for both.
  refine ⟨RuleTable.evaluate_eq_build_call (MatcherKind.shape_ofShape value.shape), ?_⟩
  intro kind own
  refine ⟨RuleTable.evaluate_eq_build_call own, ?_⟩
  intro clauses
  rw [List.filter_filter]
  -- An accepting clause passes the first test too, so only the second one counts.
  refine List.filter_congr fun clause _ => ?_
  cases accepted : clause.accepts value with
  | false => rfl
  | true => simp [MatcherKind.admits_of_accepts own accepted]

/-- A list leaves out the scalar clause in front and is answered by the cons clause all the same. -/
theorem evaluate_agrees_with_matcher_on_list :
    let table : RuleTable :=
      ⟨[⟨"12", .nullary fun _ => .ok .null⟩, ⟨"(x:_)", .unary .ok⟩,
        ⟨"_", .nullary fun _ => .ok .null⟩]⟩
    let value : Value := .list [.bool true]
    MatcherKind.array.shape = value.shape ∧ table.evaluate .array value = .ok (.bool true) := by
  intro table value
  have called : ((Matcher.build table).bind fun matcher => matcher.call value) =
      .ok (.bool true) := by cbv
  exact ⟨rfl, ((evaluate_agrees_with_matcher table value).2 .array rfl).1.trans called⟩

end Motif
