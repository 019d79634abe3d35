import Motif.Proofs.Arguments

/-!
The first clause that accepts a value answers for it, and no other has a say.

Rules that do not accept the value may come and go, and so may all that stand behind one that does.
-/

namespace Motif

/-- Whether a rule has a pattern that accepts a value. -/
def Rule.accepts (options : PatternOptions) (value : Value) (rule : Rule) : Bool :=
  match Pattern.parseWith options rule.pattern with
  | .ok pattern => (pattern.match? value).isSome
  -- A text that is no pattern accepts nothing.
  | .error _ => false

/-- What a rule alone gives for a value. -/
def Rule.answer (options : PatternOptions) (value : Value) (rule : Rule) : Outcome :=
  (Clause.ofRule options rule).bind fun clause => select [clause] value

namespace RuleTable

/-- A change to a table that has no say in what is given for a value. -/
inductive Edit (options : PatternOptions) (value : Value) : RuleTable → RuleTable → Prop
  /-- A rule that does not accept the value is put in somewhere. -/
  | insert {rule : Rule} (front back : List Rule) (missed : rule.accepts options value = false) :
      Edit options value ⟨front ++ back⟩ ⟨front ++ rule :: back⟩
  /-- A rule that does not accept the value is taken out. -/
  | delete {rule : Rule} (front back : List Rule) (missed : rule.accepts options value = false) :
      Edit options value ⟨front ++ rule :: back⟩ ⟨front ++ back⟩
  /-- All rules behind one that accepts the value give way to others. -/
  | replace {rule : Rule} (front back others : List Rule)
      (accepted : rule.accepts options value = true) :
      Edit options value ⟨front ++ rule :: back⟩ ⟨front ++ rule :: others⟩

/-- The first rule of a table that accepts a value. -/
def accepting? (options : PatternOptions) (value : Value) (table : RuleTable) : Option Rule :=
  table.rules.find? (Rule.accepts options value)

variable {options : PatternOptions} {value : Value} {table other : RuleTable}

/-- An edit leaves the first rule that accepts the value in its role. -/
theorem Edit.accepting?_eq (edit : Edit options value table other) :
    other.accepting? options value = table.accepting? options value := by
  cases edit with
  -- The search passes over a rule that does not accept the value.
  | insert front back missed | delete front back missed =>
    simp [accepting?, List.find?_append, missed]
  -- What stands behind a rule that does is never reached.
  | replace front back others accepted =>
    simp [accepting?, List.find?_append, accepted]

/-- However many edits are made, the first rule that accepts the value stays the same. -/
theorem accepting?_eq_of_edits (edits : Relation.ReflTransGen (Edit options value) table other) :
    other.accepting? options value = table.accepting? options value := by
  -- The edits are followed one by one, from the table as it was.
  induction edits with
  | refl => rfl
  | tail _ last ih => exact last.accepting?_eq.trans ih

end RuleTable

variable {options : PatternOptions}

/-- A clause accepts what its rule accepts. -/
theorem Clause.accepts_of_ofRule {rule : Rule} {clause : Clause}
    (made : ofRule options rule = .ok clause) (value : Value) :
    rule.accepts options value = clause.accepts value := by
  -- The clause carries the pattern that its rule's text is read as.
  obtain ⟨rfl, checked⟩ := checked_of_ofRule made
  simp only [Rule.accepts, checked.read]
  rfl

/-- Selecting among clauses gives what the first rule that accepts the value gives alone. -/
theorem select_eq_answer {rules : List Rule} {clauses : List Clause}
    (made : List.Forall₂ (fun rule clause => Clause.ofRule options rule = .ok clause) rules clauses)
    (value : Value) :
    select clauses value =
      ((rules.find? (Rule.accepts options value)).map (Rule.answer options value)).getD
        (.error (.unmatched value)) := by
  -- The search goes along the rules just as the selection goes along their clauses.
  induction made with
  | nil => rfl
  | @cons rule clause rules clauses own others ih =>
    have alike := Clause.accepts_of_ofRule own value
    cases matched : clause.pattern.match? value with
    | none =>
      have missed : rule.accepts options value = false := by simp [alike, Clause.accepts, matched]
      rw [select_cons_of_none clauses matched, ih, List.find?_cons_of_neg (by simp [missed])]
    | some bindings =>
      have accepted : rule.accepts options value = true := by simp [alike, Clause.accepts, matched]
      rw [List.find?_cons_of_pos accepted, select_cons_of_match? clauses matched]
      -- Alone, the clause is selected for the same bindings.
      simp only [Option.map_some, Option.getD_some, Rule.answer, own]
      exact (select_cons_of_match? [] matched).symm

namespace Matcher

variable {table : RuleTable} {matcher : Matcher} {value : Value}

/-- A matcher gives what the first rule of its table that accepts the value gives alone. -/
theorem call_eq_answer (built : buildWith options table = .ok matcher) (value : Value) :
    matcher.call value =
      ((table.accepting? options value).map (Rule.answer options value)).getD
        (.error (.unmatched value)) := by
  obtain ⟨clauses, made, rfl⟩ := map_eq_ok_iff.mp built
  exact select_eq_answer (mapM_eq_ok_iff.mp made) value

/-- A rule has its clause in the same place of the matcher. -/
theorem exists_clause (built : buildWith options table = .ok matcher) {place : Nat} {rule : Rule}
    (found : table.rules[place]? = some rule) :
    ∃ clause, matcher.clauses[place]? = some clause ∧ Clause.ofRule options rule = .ok clause := by
  obtain ⟨clauses, made, rfl⟩ := map_eq_ok_iff.mp built
  exact exists_result_of_mapM made found

/-- A matcher has a clause for each rule, with the rule's handler and the pattern of its text. -/
theorem clauses_of_buildWith (built : buildWith options table = .ok matcher) :
    List.Forall₂ (fun rule clause => rule = ⟨clause.text, clause.handler⟩ ∧
      Pattern.parseWith options clause.text = .ok clause.pattern) table.rules matcher.clauses := by
  obtain ⟨clauses, made, rfl⟩ := map_eq_ok_iff.mp built
  refine (mapM_eq_ok_iff.mp made).imp ?_
  intro rule clause own
  obtain ⟨same, checked⟩ := Clause.checked_of_ofRule own
  exact ⟨same, checked.read⟩

/-- A table whose rules are those of another, or fit for one by themselves, can be built as well. -/
theorem exists_buildWith (built : buildWith options table = .ok matcher) {other : RuleTable}
    (fit : ∀ rule ∈ other.rules,
      rule ∈ table.rules ∨ ∃ clause, Clause.ofRule options rule = .ok clause) :
    ∃ rebuilt, buildWith options other = .ok rebuilt := by
  -- Every rule makes a clause whatever stands around it.
  have each : ∀ rule ∈ other.rules, ∃ clause, Clause.ofRule options rule = .ok clause := by
    intro rule member
    rcases fit rule member with old | new
    · obtain ⟨place, found⟩ := List.mem_iff_getElem?.mp old
      obtain ⟨clause, _, made⟩ := exists_clause built found
      exact ⟨clause, made⟩
    · exact new
  obtain ⟨clauses, made⟩ := exists_mapM_eq_ok each
  exact ⟨⟨clauses⟩, map_eq_ok_iff.mpr ⟨clauses, made, rfl⟩⟩

/-- The clause that answers for a value: the first whose pattern accepts it. -/
def Chooses (matcher : Matcher) (value : Value) (index : Nat) (clause : Clause)
    (bindings : Bindings) : Prop :=
  -- All clauses of a matcher take part in every selection.
  Selected (fun _ => true) value matcher.clauses index clause bindings

variable {index : Nat} {clause other : Clause} {bindings : Bindings}

/-- The clause that is chosen runs its handler, whatever comes of that. -/
theorem Chooses.call_eq (chosen : matcher.Chooses value index clause bindings) :
    matcher.call value = clause.handler.run (clause.passed value bindings) := by
  have selected := chosen.select_eq
  rwa [List.filter_eq_self.mpr fun _ _ => rfl] at selected

/-- Behind a type tag, a handler that asks for anything runs on the value itself. -/
theorem Chooses.call_of_typeTag (built : buildWith options table = .ok matcher)
    (chosen : matcher.Chooses value index clause bindings) {name : String}
    (tagged : clause.pattern = .typeTag name) (asks : 0 < clause.handler.arity) :
    matcher.call value = clause.handler.run [value] := by
  -- A rule whose handler asks a type tag for more than the object was turned down.
  have enough := (Matcher.exists_rule built chosen.found).2.enough
  rw [tagged, Pattern.arityWithSubject, decide_eq_true asks, if_pos rfl] at enough
  rw [chosen.call_eq, Clause.passed_of_typeTag tagged (Nat.le_antisymm enough asks)]

/-- Any other handler runs on the values that were bound first, as many as it asks for. -/
theorem Chooses.call_of_bound (built : buildWith options table = .ok matcher)
    (chosen : matcher.Chooses value index clause bindings)
    (other : (∀ name, clause.pattern ≠ .typeTag name) ∨ clause.handler.arity = 0) :
    matcher.call value = clause.handler.run (bindings.values.take clause.handler.arity) := by
  have checked := (Matcher.exists_rule built chosen.found).2
  rw [chosen.call_eq, checked.passed_of_bound]
  rintro ⟨⟨name, tagged⟩, single⟩
  rcases other with untagged | none
  · exact untagged name tagged
  · omega

/-- Where some clause accepts a value, a clause is chosen. -/
theorem exists_chooses (member : other ∈ matcher.clauses) (accepted : other.accepts value = true) :
    ∃ index clause bindings, matcher.Chooses value index clause bindings := by
  -- Searching from the front finds the first such clause.
  have some : (matcher.clauses.find? (·.accepts value)).isSome = true :=
    List.find?_isSome.mpr ⟨other, member, accepted⟩
  obtain ⟨clause, found⟩ := Option.isSome_iff_exists.mp some
  obtain ⟨own, index, inside, rfl, first⟩ := List.find?_eq_some_iff_getElem.mp found
  obtain ⟨bindings, matched⟩ := Option.isSome_iff_exists.mp own
  refine ⟨index, _, bindings, List.getElem?_eq_getElem inside, rfl, matched, ?_⟩
  intro earlier before _
  obtain ⟨place, within, rfl⟩ := List.mem_take_iff_getElem.mp before
  simpa using first place (by omega)

/-- No clause in front of the chosen one accepts the value. -/
theorem Chooses.le_of_accepts (chosen : matcher.Chooses value index clause bindings) {place : Nat}
    (found : matcher.clauses[place]? = some other) (accepted : other.accepts value = true) :
    index ≤ place := by
  by_contra later
  have earlier : other ∈ matcher.clauses.take index := by
    refine List.mem_of_getElem? (i := place) ?_
    rw [List.getElem?_take_of_lt (by omega), found]
  -- Clauses in front of the chosen one were passed over.
  rw [chosen.first other earlier rfl] at accepted
  cases accepted

/-- Where no clause accepts a value, the value is reported as unmatched. -/
theorem call_eq_unmatched (none : ∀ clause ∈ matcher.clauses, clause.pattern.match? value = none) :
    matcher.call value = .error (.noMatchingClause value.text) := by
  rcases exists_selected_or_unmatched (fun _ => true) value matcher.clauses with
    selected | unmatched
  · obtain ⟨index, clause, bindings, selected⟩ := selected
    have missed := none clause (List.mem_of_getElem? selected.found)
    rw [selected.matched] at missed
    cases missed
  · rwa [List.filter_eq_self.mpr fun _ _ => rfl] at unmatched

end Matcher

/--
The first clause that accepts a value answers for it, and nothing else in the table matters.

Each rule has its clause. The result is that of the clause's handler, be it an error: a handler
behind a type tag runs on the value itself, and any other on the values that the match bound first.
Only a value that no clause accepts is reported as unmatched. Rules that do not accept the value may
come and go anywhere in the table, and so may all rules behind one that accepts it. An underscore
leaves no value unmatched, and no clause behind it is ever chosen.
-/
theorem first_accepting_clause_answers {table : RuleTable} {matcher : Matcher}
    (built : Matcher.buildWith options table = .ok matcher) (value : Value) :
    List.Forall₂ (fun rule clause => rule = ⟨clause.text, clause.handler⟩ ∧
      Pattern.parseWith options clause.text = .ok clause.pattern) table.rules matcher.clauses ∧
    (∀ index clause bindings, matcher.Chooses value index clause bindings →
      (∀ name, clause.pattern = .typeTag name → 0 < clause.handler.arity →
        matcher.call value = clause.handler.run [value]) ∧
      ((∀ name, clause.pattern ≠ .typeTag name) ∨ clause.handler.arity = 0 →
        matcher.call value = clause.handler.run (bindings.values.take clause.handler.arity))) ∧
    ((∃ index clause bindings, matcher.Chooses value index clause bindings) ∨
      (∀ clause ∈ matcher.clauses, clause.pattern.match? value = none) ∧
        matcher.call value = .error (.noMatchingClause value.text)) ∧
    (∀ other, Relation.ReflTransGen (RuleTable.Edit options value) table other →
      (∀ rule ∈ other.rules,
        rule ∈ table.rules ∨ ∃ clause, Clause.ofRule options rule = .ok clause) →
      ∃ rebuilt, Matcher.buildWith options other = .ok rebuilt ∧
        rebuilt.call value = matcher.call value) ∧
    ∀ place rule, table.rules[place]? = some rule →
      Pattern.parseWith options rule.pattern = .ok .wildcard →
        (∃ index clause bindings, matcher.Chooses value index clause bindings) ∧
          ∀ index clause bindings, matcher.Chooses value index clause bindings → index ≤ place := by
  refine ⟨Matcher.clauses_of_buildWith built, ?_, ?_, ?_, ?_⟩
  · intro index clause bindings chosen
    exact ⟨fun _ => chosen.call_of_typeTag built, chosen.call_of_bound built⟩
  · by_cases some : ∃ clause ∈ matcher.clauses, clause.accepts value = true
    · obtain ⟨other, member, accepted⟩ := some
      exact .inl (Matcher.exists_chooses member accepted)
    · have none : ∀ clause ∈ matcher.clauses, clause.pattern.match? value = none := by
        simpa [Clause.accepts] using some
      exact .inr ⟨none, Matcher.call_eq_unmatched none⟩
  · intro other edits fit
    obtain ⟨rebuilt, again⟩ := Matcher.exists_buildWith built fit
    -- Both matchers go by the first rule that accepts the value, which the edits left alone.
    refine ⟨rebuilt, again, ?_⟩
    rw [Matcher.call_eq_answer again, Matcher.call_eq_answer built,
      RuleTable.accepting?_eq_of_edits edits]
  · intro place rule found underscore
    obtain ⟨clause, stands, made⟩ := Matcher.exists_clause built found
    -- An underscore accepts whatever it is matched against.
    have accepted : clause.accepts value = true := by
      rw [← Clause.accepts_of_ofRule made, Rule.accepts, underscore]
      rfl
    exact ⟨Matcher.exists_chooses (List.mem_of_getElem? stands) accepted,
      fun _ _ _ chosen => chosen.le_of_accepts stands accepted⟩

/-- The error of the clause in the middle stands, made of the head that its pattern binds. -/
theorem first_accepting_clause_answers_of_error :
    let nothing : Handler := .nullary fun _ => .ok .null
    let refuse : Handler := .unary fun item => .error (.custom item.text)
    let table : RuleTable := ⟨[⟨"12", nothing⟩, ⟨"(x:_)", refuse⟩, ⟨"_", nothing⟩]⟩
    let other : RuleTable := ⟨[⟨"(x:_)", refuse⟩]⟩
    let value : Value := .list [.bool true]
    let cons : Clause := ⟨"(x:_)", .cons ⟨["x"], .wildcard⟩, 1, refuse⟩
    let matcher : Matcher :=
      ⟨[⟨"12", .literal ⟨"12", some (.int 12), false⟩, 0, nothing⟩, cons,
        ⟨"_", .wildcard, 0, nothing⟩]⟩
    Matcher.buildWith {} table = .ok matcher ∧
      matcher.Chooses value 1 cons ⟨[("x", .bool true)]⟩ ∧
      matcher.call value = .error (.custom "true") ∧
      Relation.ReflTransGen (RuleTable.Edit {} value) table other ∧
      (∃ rebuilt, Matcher.buildWith {} other = .ok rebuilt ∧
        rebuilt.call value = matcher.call value) ∧
      Pattern.parseWith {} "_" = .ok .wildcard ∧
      ∀ index clause bindings, matcher.Chooses value index clause bindings → index ≤ 2 := by
  intro nothing refuse table other value cons matcher
  have built : Matcher.buildWith {} table = .ok matcher := by cbv
  have chosen : matcher.Chooses value 1 cons ⟨[("x", .bool true)]⟩ := by
    refine ⟨rfl, rfl, rfl, ?_⟩
    intro earlier member _
    obtain rfl := List.mem_singleton.mp member
    rfl
  have underscore : Pattern.parseWith {} "_" = .ok .wildcard := by cbv
  -- The first rule is taken out, and what stands behind the second one as well.
  have missed : Rule.accepts {} value ⟨"12", nothing⟩ = false := by cbv
  have accepted : Rule.accepts {} value ⟨"(x:_)", refuse⟩ = true := by cbv
  have edits : Relation.ReflTransGen (RuleTable.Edit {} value) table other :=
    .tail (.single (.delete [] _ missed)) (.replace [] [⟨"_", nothing⟩] [] accepted)
  have fit : ∀ rule ∈ other.rules,
      rule ∈ table.rules ∨ ∃ clause, Clause.ofRule {} rule = .ok clause := by
    intro rule member
    obtain rfl := List.mem_singleton.mp member
    exact .inl (.tail _ (.head _))
  obtain ⟨_, answers, _, stays, behind⟩ := first_accepting_clause_answers built value
  have untagged (name : String) : cons.pattern ≠ .typeTag name := by
    intro tagged
    cases tagged
  have answer := (answers 1 cons _ chosen).2 (.inl untagged)
  exact ⟨built, chosen, answer, edits, stays other edits fit, underscore,
    (behind 2 ⟨"_", nothing⟩ rfl underscore).2⟩

end Motif
