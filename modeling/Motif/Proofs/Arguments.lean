import Motif.Proofs.Matching
import Motif.Proofs.Pattern.Reading
import Motif.Proofs.Selection
import Motif.Proofs.Traversal

/-!
The arguments that the handler of the selected clause runs on.

A rule is turned down unless a match binds enough values for its handler, so that none is ever
missing.
-/

namespace Motif

namespace Clause

/-- A clause whose pattern is that of its text and binds enough values for its handler. -/
structure Checked (options : PatternOptions) (clause : Clause) : Prop where
  read : Pattern.parseWith options clause.text = .ok clause.pattern
  enough : clause.handler.arity ≤ clause.pattern.arityWithSubject (0 < clause.handler.arity)

/-- A clause that was made from a rule has its text and handler, and is checked. -/
theorem checked_of_ofRule {options : PatternOptions} {rule : Rule} {clause : Clause}
    (done : ofRule options rule = .ok clause) :
    rule = ⟨clause.text, clause.handler⟩ ∧ clause.Checked options := by
  -- Both reasons to turn a rule down are gone once there is a clause.
  unfold ofRule at done
  split at done
  · cases done
  · rename_i pattern read
    -- A handler that asks for too much has been turned down.
    by_cases short : pattern.arityWithSubject (0 < rule.handler.arity) < rule.handler.arity
    · simp [short] at done
    · obtain rfl := Except.ok.inj ((if_neg short).symm.trans done)
      exact ⟨rfl, read, Nat.le_of_not_lt short⟩

/-- A match offers as many arguments as the arity of the pattern says. -/
theorem length_arguments {clause : Clause} {value : Value} {bindings : Bindings}
    (matched : clause.pattern.match? value = some bindings) :
    (clause.arguments value bindings).length =
      clause.pattern.arityWithSubject (0 < clause.handler.arity) := by
  -- A match binds one value for every name, and the arity counts the names.
  have bound : bindings.values.length = clause.pattern.arity := by
    rw [Bindings.length_values, Pattern.names_of_matchBy? matched, Pattern.length_binders]
  unfold arguments Pattern.arityWithSubject
  cases tagged : clause.pattern with
  | typeTag name =>
    rw [tagged] at bound
    -- A type tag binds nothing itself and offers the object only when it is asked for.
    by_cases wanted : 0 < clause.handler.arity
    · simp [wanted]
    · simpa [wanted, Pattern.arity] using bound
  | wildcard | literal | cons | list => simpa [tagged] using bound

/-- The handler of a checked clause gets as many arguments as it asks for. -/
theorem Checked.length_passed {options : PatternOptions} {clause : Clause} {value : Value}
    {bindings : Bindings} (checked : clause.Checked options)
    (matched : clause.pattern.match? value = some bindings) :
    (clause.passed value bindings).length = clause.handler.arity := by
  -- Cutting off what is too much cannot leave too little, since the rule was checked.
  have enough := checked.enough
  rw [← length_arguments matched] at enough
  rw [passed, List.length_take, Nat.min_eq_left enough]

/-- A type tag hands out the object itself to a handler of one value. -/
theorem passed_of_typeTag {clause : Clause} {name : String}
    (tagged : clause.pattern = .typeTag name) (single : clause.handler.arity = 1) (value : Value)
    (bindings : Bindings) : clause.passed value bindings = [value] := by
  -- The handler asks for something, so the tag offers the object.
  simp [passed, arguments, tagged, single]

/-- All other handlers get the values that were bound first. -/
theorem Checked.passed_of_bound {options : PatternOptions} {clause : Clause}
    (checked : clause.Checked options)
    (other : ¬ ((∃ name, clause.pattern = .typeTag name) ∧ clause.handler.arity = 1))
    (value : Value) (bindings : Bindings) :
    clause.passed value bindings = bindings.values.take clause.handler.arity := by
  -- Only a type tag ever offers anything but what was bound.
  unfold passed arguments
  split
  · rename_i name tagged
    -- With a type tag the handler asks for one value at most, so here it asks for none.
    have none : clause.handler.arity = 0 := by
      have enough := checked.enough
      have several : clause.handler.arity ≠ 1 := fun single => other ⟨⟨name, tagged⟩, single⟩
      rw [tagged, Pattern.arityWithSubject] at enough
      split at enough <;> omega
    simp [none]
  · rfl

end Clause

/-- The first of some clauses, among those that take part, whose pattern accepts a value. -/
structure Selected (takesPart : Clause → Bool) (value : Value) (clauses : List Clause)
    (index : Nat) (clause : Clause) (bindings : Bindings) : Prop where
  found : clauses[index]? = some clause
  takes : takesPart clause = true
  matched : clause.pattern.match? value = some bindings
  first : ∀ earlier ∈ clauses.take index, takesPart earlier = true → earlier.accepts value = false

/-- A clause that takes no part or does not accept a value leaves it to the clauses behind. -/
theorem select_filter_cons_of_missed {takesPart : Clause → Bool} {value : Value} {clause : Clause}
    (clauses : List Clause) (missed : takesPart clause = true → clause.accepts value = false) :
    select ((clause :: clauses).filter takesPart) value =
      select (clauses.filter takesPart) value := by
  -- Taken out or tried in vain, the clause has no say.
  by_cases takes : takesPart clause = true
  · have unmatched : clause.pattern.match? value = none := by
      simpa [Clause.accepts] using missed takes
    rw [List.filter_cons_of_pos takes, select_cons_of_none _ unmatched]
  · rw [List.filter_cons_of_neg takes]

/-- The result is what the handler of the selected clause gives for its arguments. -/
theorem Selected.select_eq {takesPart : Clause → Bool} {value : Value} {clauses : List Clause}
    {index : Nat} {clause : Clause} {bindings : Bindings}
    (selected : Selected takesPart value clauses index clause bindings) :
    select (clauses.filter takesPart) value =
      clause.handler.run (clause.passed value bindings) := by
  -- Each clause before the selected one is passed over, and then the search ends.
  obtain ⟨found, takes, matched, first⟩ := selected
  induction clauses generalizing index with
  | nil => simp at found
  | cons front rest ih =>
    cases index with
    | zero =>
      -- The selected clause stands in front, so the search ends with it.
      obtain rfl : front = clause := by simpa using found
      rw [List.filter_cons_of_pos takes, select_cons_of_match? _ matched]
    | succ index =>
      rw [select_filter_cons_of_missed rest (first front (by simp))]
      refine ih (by simpa using found) fun earlier member => first earlier ?_
      simpa using .inr member

/-- Either some clause is selected, or no clause that takes part accepts the value. -/
theorem exists_selected_or_unmatched (takesPart : Clause → Bool) (value : Value)
    (clauses : List Clause) :
    (∃ index clause bindings, Selected takesPart value clauses index clause bindings) ∨
      select (clauses.filter takesPart) value = .error (.unmatched value) := by
  -- The clauses are gone through in order until one takes part and accepts.
  induction clauses with
  | nil => exact .inr (select_nil value)
  | cons front rest ih =>
    by_cases missed : takesPart front = true → front.accepts value = false
    · rw [select_filter_cons_of_missed rest missed]
      -- What is selected among the clauses behind has one more before it.
      refine ih.imp_left ?_
      intro later
      obtain ⟨index, clause, bindings, found, takes, matched, first⟩ := later
      refine ⟨index + 1, clause, bindings, by simpa using found, takes, matched, ?_⟩
      intro earlier member
      rcases List.mem_cons.mp (List.take_succ_cons ▸ member) with rfl | later
      · exact missed
      · exact first earlier later
    · obtain ⟨takes, accepted⟩ := Classical.not_imp.mp missed
      obtain ⟨bindings, matched⟩ := Option.isSome_iff_exists.mp (Bool.not_eq_false _ ▸ accepted)
      exact .inl ⟨0, front, bindings, rfl, takes, matched, by simp⟩

/-- The ways in which a rule table is applied. -/
inductive EntryPoint where
  /-- A matcher that was built first, on a value. -/
  | call (value : Value)
  /-- A matcher that was built first, on arguments taken as one list. -/
  | callArguments (arguments : List Value)
  /-- The table at once, on a value. -/
  | matchOnce (value : Value)
  /-- The clauses of one family at once, on a value. -/
  | evaluate (kind : MatcherKind) (value : Value)

namespace EntryPoint

/-- The value that clauses are matched against. -/
def value : EntryPoint → Value
  -- Arguments reach the clauses as one list.
  | call value | matchOnce value | evaluate _ value => value
  | callArguments arguments => .list arguments

/-- The options that patterns are read under, of which only a matcher has its own. -/
def options (own : PatternOptions) : EntryPoint → PatternOptions
  -- A table that is applied at once is read as it would be by default.
  | call _ | callArguments _ => own
  | matchOnce _ | evaluate .. => {}

/-- Whether a clause takes part. -/
def takesPart (entry : EntryPoint) (clause : Clause) : Bool :=
  match entry with
  -- A matcher keeps all of its clauses, whatever the value.
  | call _ | callArguments _ => true
  | matchOnce value => (MatcherKind.ofShape value.shape).admits clause.pattern.kind
  | evaluate kind _ => kind.admits clause.pattern.kind

/-- What applying a table gives. -/
def outcome (own : PatternOptions) (table : RuleTable) : EntryPoint → Outcome
  -- A table that cannot be built gives the error of its first bad rule.
  | call value => (Matcher.buildWith own table).bind fun matcher => matcher.call value
  | callArguments arguments =>
    (Matcher.buildWith own table).bind fun matcher => matcher.callArguments arguments
  | matchOnce value => table.matchOnce value
  | evaluate kind value => table.evaluate kind value

/-- Every way selects among the clauses that take part. -/
theorem outcome_eq_select {own : PatternOptions} {table : RuleTable} {matcher : Matcher}
    (entry : EntryPoint) (built : Matcher.buildWith (entry.options own) table = .ok matcher) :
    entry.outcome own table = select (matcher.clauses.filter entry.takesPart) entry.value := by
  -- A matcher tries all of its clauses, and a family those that it admits.
  have all (clauses : List Clause) : clauses.filter (fun _ => true) = clauses :=
    List.filter_eq_self.mpr fun _ _ => rfl
  cases entry with
  | call value =>
    have built : Matcher.buildWith own table = .ok matcher := built
    show ((Matcher.buildWith own table).bind fun matcher => matcher.call value) =
      select (matcher.clauses.filter fun _ => true) value
    rw [built, all]
    rfl
  | callArguments arguments =>
    have built : Matcher.buildWith own table = .ok matcher := built
    show ((Matcher.buildWith own table).bind fun matcher => matcher.callArguments arguments) =
      select (matcher.clauses.filter fun _ => true) (.list arguments)
    rw [built, all]
    rfl
  | matchOnce value | evaluate kind value =>
    -- Either reads the table anew, under the options that the matcher was built with.
    obtain ⟨clauses, made, rfl⟩ := map_eq_ok_iff.mp built
    have made : Clause.ofTable {} table = .ok clauses := made
    simp only [outcome, RuleTable.matchOnce, RuleTable.evaluate, made]
    rfl

end EntryPoint

/-- The clauses of a matcher stand where their rules do, and each of them is checked. -/
theorem Matcher.exists_rule {options : PatternOptions} {table : RuleTable} {matcher : Matcher}
    (built : buildWith options table = .ok matcher) {index : Nat} {clause : Clause}
    (found : matcher.clauses[index]? = some clause) :
    table.rules[index]? = some ⟨clause.text, clause.handler⟩ ∧ clause.Checked options := by
  -- Clauses are made from rules one by one, so each has the place of its rule.
  obtain ⟨clauses, made, rfl⟩ := map_eq_ok_iff.mp built
  obtain ⟨rule, place, done⟩ := exists_item_of_mapM made found
  obtain ⟨rfl, checked⟩ := Clause.checked_of_ofRule done
  exact ⟨place, checked⟩

/-- What a clause's handler runs on when the clause is selected, and what comes out of it. -/
structure RunsAsDeclared (clause : Clause) (value : Value) (bindings : Bindings)
    (outcome : Outcome) : Prop where
  /-- The outcome is what the handler makes of the arguments passed to it. -/
  ran : outcome = clause.handler.run (clause.passed value bindings)
  /-- There are as many arguments as the handler asks for. -/
  length : (clause.passed value bindings).length = clause.handler.arity
  /-- A type tag passes on the value itself, to a handler that asks for one. -/
  subject : (∃ name, clause.pattern = .typeTag name) → clause.handler.arity = 1 →
    clause.passed value bindings = [value]
  /-- In all other cases the values that were bound first are passed on. -/
  bound : ¬ ((∃ name, clause.pattern = .typeTag name) ∧ clause.handler.arity = 1) →
    clause.passed value bindings = bindings.values.take clause.handler.arity
  /-- Values are bound in the order of the pattern's names. -/
  names : bindings.names = clause.pattern.binders
  /-- Those stand in the text of the rule in the same order. -/
  ordered : (∀ name, clause.pattern ≠ .typeTag name) →
    clause.pattern.binders = Token.names (Token.tokenize clause.text)
  /-- A handler of one value is given one, and never null in its place. -/
  unary : ∀ run, clause.handler = .unary run →
    ∃ only, clause.passed value bindings = [only] ∧ outcome = run only
  /-- A handler of two values is given two. -/
  binary : ∀ run, clause.handler = .binary run →
    ∃ first second, clause.passed value bindings = [first, second] ∧ outcome = run first second

/-- A checked clause runs its handler as declared whenever its pattern accepts a value. -/
theorem Clause.Checked.runsAsDeclared {options : PatternOptions} {clause : Clause} {value : Value}
    {bindings : Bindings} (checked : clause.Checked options)
    (matched : clause.pattern.match? value = some bindings) :
    RunsAsDeclared clause value bindings (clause.handler.run (clause.passed value bindings)) := by
  -- That the number of arguments is exact is what leaves no place for null.
  have length := checked.length_passed matched
  refine ⟨rfl, length, ?subject, fun other => checked.passed_of_bound other value bindings,
    Pattern.names_of_matchBy? matched, ?ordered, ?unary, ?binary⟩
  case subject =>
    intro tagged single
    obtain ⟨name, tagged⟩ := tagged
    exact passed_of_typeTag tagged single value bindings
  case ordered =>
    intro untagged
    -- The token behind the text has no name.
    rw [Token.tokenize, Token.names_append, Pattern.names_of_parseWith checked.read untagged]
    exact (List.append_nil _).symm
  case unary =>
    intro run unary
    rw [unary] at length ⊢
    obtain ⟨only, same⟩ := List.length_eq_one_iff.mp length
    exact ⟨only, same, by rw [same]; rfl⟩
  case binary =>
    intro run binary
    rw [binary] at length ⊢
    obtain ⟨first, second, same⟩ := List.length_eq_two.mp length
    exact ⟨first, second, same, by rw [same]; rfl⟩

/--
The handler of the selected clause runs on exactly the arguments that it asks for.

This holds for every way to apply a table that can be built. The selected clause belongs to the
rule in the same place, and when no clause is selected the value is reported as unmatched.
-/
theorem selected_handler_gets_declared_arguments {own : PatternOptions} {table : RuleTable}
    {matcher : Matcher} (entry : EntryPoint)
    (built : Matcher.buildWith (entry.options own) table = .ok matcher) :
    (∀ index clause bindings,
      Selected entry.takesPart entry.value matcher.clauses index clause bindings →
        table.rules[index]? = some ⟨clause.text, clause.handler⟩ ∧
          RunsAsDeclared clause entry.value bindings (entry.outcome own table)) ∧
      ((∃ index clause bindings,
          Selected entry.takesPart entry.value matcher.clauses index clause bindings) ∨
        entry.outcome own table = .error (.unmatched entry.value)) := by
  -- All ways to apply a table select in the same manner, so the way does not matter.
  rw [entry.outcome_eq_select built]
  refine ⟨?_, exists_selected_or_unmatched entry.takesPart entry.value matcher.clauses⟩
  intro index clause bindings selected
  obtain ⟨place, checked⟩ := Matcher.exists_rule built selected.found
  rw [selected.select_eq]
  exact ⟨place, checked.runsAsDeclared selected.matched⟩

/-- A list passes over the type tag in front, and its head and tail go to the second handler. -/
theorem selected_handler_gets_declared_arguments_of_list :
    let pair : Value → Value → Outcome := fun first second => .ok (.list [second, first])
    let table : RuleTable := ⟨[⟨"IO", .unary .ok⟩, ⟨"(x:xs)", .binary pair⟩]⟩
    let entry : EntryPoint := .callArguments [.bool true, .null]
    let tag : Clause := ⟨"IO", .typeTag "IO", 1, .unary .ok⟩
    let cons : Clause := ⟨"(x:xs)", .cons ⟨["x"], .binder "xs"⟩, 2, .binary pair⟩
    let bindings : Bindings := ⟨[("x", .bool true), ("xs", .list [.null])]⟩
    Matcher.buildWith (entry.options {}) table = .ok ⟨[tag, cons]⟩ ∧
      Selected entry.takesPart entry.value [tag, cons] 1 cons bindings ∧
      RunsAsDeclared cons entry.value bindings (entry.outcome {} table) := by
  intro pair table entry tag cons bindings
  have built : Matcher.buildWith (entry.options {}) table = .ok ⟨[tag, cons]⟩ := by cbv
  have selected : Selected entry.takesPart entry.value [tag, cons] 1 cons bindings := by
    refine ⟨rfl, rfl, rfl, ?_⟩
    intro earlier member _
    obtain rfl : earlier = tag := by simpa using member
    rfl
  have run := (selected_handler_gets_declared_arguments entry built).1 1 cons bindings selected
  exact ⟨built, selected, run.2⟩

end Motif
