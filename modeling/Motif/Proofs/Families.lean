import Motif.Proofs.Refusal

/-!
Families of clauses, on values of their own shape and of others.

A value of another shape is accepted by underscores alone, so that the first of them answers for it.
-/

namespace Motif

/-- The form of the pattern that a rule writes, if it writes one. -/
def Rule.form? (rule : Rule) : Option PatternKind :=
  (Pattern.parse rule.pattern).toOption.map Pattern.kind

/-- Whether a rule has an underscore for its pattern. -/
def Rule.isWildcard (rule : Rule) : Bool :=
  rule.form? == some .wildcard

namespace RuleTable

/-- The first rule of a table whose pattern is an underscore. -/
def wildcard? (table : RuleTable) : Option Rule :=
  table.rules.find? Rule.isWildcard

/-- The rules of a table that belong to a family. -/
def admitted (kind : MatcherKind) (table : RuleTable) : RuleTable :=
  ⟨table.rules.filter fun rule => rule.form?.any kind.admits⟩

/-- Whether two tables differ at most in what handlers of rules other than underscores do. -/
def AgreeOnWildcards (left right : RuleTable) : Prop :=
  List.Forall₂ (fun own other => other.signature = own.signature ∧
    (own.isWildcard = true → other = own)) left.rules right.rules

end RuleTable

/-- Only an underscore goes with values of more than one shape. -/
theorem PatternKind.accepts_two {form : PatternKind} {first second : ValueShape}
    (own : form.accepts first = true) (other : form.accepts second = true)
    (differ : first ≠ second) : form = .wildcard := by
  -- Every other form has one shape, as going through them shows.
  cases form <;> cases first <;> cases second <;> simp_all [PatternKind.accepts]

/-- The underscore is the only pattern of its form. -/
theorem Pattern.kind_eq_wildcard_iff {pattern : Pattern} :
    pattern.kind = .wildcard ↔ pattern = .wildcard := by
  -- Forms and patterns have the same constructors.
  cases pattern <;> simp [Pattern.kind]

variable {kind : MatcherKind} {value : Value}

namespace Clause

/-- A clause has the form that its rule writes. -/
theorem form?_of_ofRule {rule : Rule} {clause : Clause} (made : ofRule {} rule = .ok clause) :
    rule.form? = some clause.pattern.kind := by
  -- Making a clause reads the text of its rule.
  obtain ⟨rfl, checked⟩ := checked_of_ofRule made
  simp [Rule.form?, Pattern.parse, checked.read, Except.toOption]

/-- A clause has an underscore when its rule does. -/
theorem isWildcard_iff_of_ofRule {rule : Rule} {clause : Clause}
    (made : ofRule {} rule = .ok clause) :
    rule.isWildcard = true ↔ clause.pattern = .wildcard := by
  -- The form of the rule is that of the pattern in the clause.
  simp [Rule.isWildcard, form?_of_ofRule made, Pattern.kind_eq_wildcard_iff]

/-- Within a family, a value of another shape is accepted by underscores and by nothing else. -/
theorem accepts_of_other_shape {clause : Clause} (other : kind.shape ≠ value.shape)
    (takes : kind.admits clause.pattern.kind = true) :
    clause.accepts value = true ↔ clause.pattern = .wildcard := by
  constructor
  · intro accepted
    obtain ⟨bindings, matched⟩ := Option.isSome_iff_exists.mp accepted
    -- The form goes with the shape of the family and with that of the value.
    exact Pattern.kind_eq_wildcard_iff.mp
      (PatternKind.accepts_two takes (Pattern.accepts_shape_of_matchBy? matched) other)
  · intro underscore
    simp [accepts, underscore, Pattern.match?, Pattern.matchBy?]

/-- An underscore has nothing to hand on. -/
theorem passed_of_wildcard {clause : Clause} (underscore : clause.pattern = .wildcard)
    {bindings : Bindings} (matched : clause.pattern.match? value = some bindings) :
    clause.passed value bindings = [] := by
  -- It binds nothing, and only a type tag hands on the value itself.
  rw [underscore] at matched
  cases matched
  simp [passed, arguments, underscore, Bindings.values, Bindings.empty]

end Clause

/-- On a value of another shape the first underscore answers, and it is given nothing. -/
theorem select_of_other_shape (other : kind.shape ≠ value.shape) {rules : List Rule}
    {clauses : List Clause}
    (made : List.Forall₂ (fun rule clause => Clause.ofRule {} rule = .ok clause) rules clauses) :
    select (clauses.filter fun clause => kind.admits clause.pattern.kind) value =
      ((rules.find? Rule.isWildcard).map fun rule => rule.handler.invoke []).getD
        (.error (.unmatched value)) := by
  -- Clauses of all other patterns are passed by, whether or not they are admitted.
  induction made with
  | nil => rfl
  | @cons rule clause rules clauses own others ih =>
    have same := Clause.isWildcard_iff_of_ofRule own
    by_cases underscore : clause.pattern = .wildcard
    · -- Families admit underscores, and this one is in front.
      have takes : kind.admits clause.pattern.kind = true := by rw [underscore]; rfl
      have accepted := (Clause.accepts_of_other_shape other takes).mpr underscore
      obtain ⟨bindings, matched⟩ := Option.isSome_iff_exists.mp accepted
      have kept := List.filter_cons_of_pos (p := fun clause : Clause =>
        kind.admits clause.pattern.kind) (l := clauses) takes
      rw [kept, select_cons_of_match? _ matched, Clause.passed_of_wildcard underscore matched,
        List.find?_cons_of_pos (same.mpr underscore), (Clause.checked_of_ofRule own).1]
      simp [Handler.invoke]
    · rw [List.find?_cons_of_neg fun found => underscore (same.mp found), ← ih]
      refine select_filter_cons_of_missed clauses fun takes => ?_
      exact Bool.eq_false_iff.mpr fun accepted =>
        underscore ((Clause.accepts_of_other_shape other takes).mp accepted)

namespace RuleTable

variable {table other : RuleTable}

/-- A family is evaluated among the clauses that a matcher of the whole table has. -/
theorem evaluate_of_build {matcher : Matcher} (built : Matcher.build table = .ok matcher)
    (kind : MatcherKind) (value : Value) :
    table.evaluate kind value =
      select (matcher.clauses.filter fun clause => kind.admits clause.pattern.kind) value :=
  @EntryPoint.outcome_eq_select {} table matcher (.evaluate kind value) built

/-- The first underscore of a table that can be built answers for values of another shape. -/
theorem evaluate_of_other_shape {matcher : Matcher} (built : Matcher.build table = .ok matcher)
    (apart : kind.shape ≠ value.shape) :
    table.evaluate kind value = (table.wildcard?.map fun rule => rule.handler.invoke []).getD
      (.error (.noMatchingClause value.text)) := by
  -- Building has made a clause of each rule, in the order of the rules.
  rw [evaluate_of_build built]
  obtain ⟨clauses, made, rfl⟩ := map_eq_ok_iff.mp built
  exact select_of_other_shape apart (mapM_eq_ok_iff.mp made)

/-- What handlers of other rules do has no bearing on whether a table can be built. -/
theorem AgreeOnWildcards.exists_build {matcher : Matcher} (agree : AgreeOnWildcards table other)
    (built : Matcher.build table = .ok matcher) : ∃ rebuilt, Matcher.build other = .ok rebuilt := by
  refine exists_build_eq_ok fun rule member error refused => ?_
  obtain ⟨place, found⟩ := List.mem_iff_getElem?.mp member
  obtain ⟨own, stands, same, -⟩ := exists_partner agree found
  -- Its partner would be turned down too, but that one has made a clause.
  obtain ⟨clauses, made, rfl⟩ := map_eq_ok_iff.mp built
  obtain ⟨clause, -, done⟩ := exists_result_of_mapM made stands
  have failed := Clause.ofRule_eq_error_iff.mpr (refused.of_signature_eq same.symm)
  rw [done] at failed
  cases failed

/-- Tables that agree on underscores have the same first underscore. -/
theorem AgreeOnWildcards.wildcard?_eq (agree : AgreeOnWildcards table other) :
    other.wildcard? = table.wildcard? := by
  -- Both tables are searched in step, and partners pass the test together.
  obtain ⟨rules⟩ := table
  obtain ⟨others⟩ := other
  simp only [AgreeOnWildcards] at agree
  simp only [wildcard?]
  induction agree with
  | nil => rfl
  | @cons own other rules others same rest ih =>
    obtain ⟨signature, kept⟩ := same
    have form : other.isWildcard = own.isWildcard := by
      simp only [Rule.isWildcard, Rule.form?, (Prod.mk.inj signature).1]
    by_cases underscore : own.isWildcard = true
    · rw [kept underscore, List.find?_cons_of_pos underscore, List.find?_cons_of_pos underscore]
    · rw [List.find?_cons_of_neg (form ▸ underscore), List.find?_cons_of_neg underscore, ih]

/-- The clause that a family selects for a value of another shape is the first underscore. -/
theorem wildcard?_of_selected {matcher : Matcher} (built : Matcher.build table = .ok matcher)
    (apart : kind.shape ≠ value.shape) {index : Nat} {clause : Clause} {bindings : Bindings}
    (selected : Selected (fun clause => kind.admits clause.pattern.kind) value matcher.clauses index
      clause bindings) :
    table.rules[index]? = table.wildcard? ∧ clause.pattern = .wildcard ∧
      clause.passed value bindings = [] := by
  have underscore := (Clause.accepts_of_other_shape apart selected.takes).mp
    (by simp [Clause.accepts, selected.matched])
  refine ⟨?_, underscore, Clause.passed_of_wildcard underscore selected.matched⟩
  obtain ⟨clauses, made, rfl⟩ := map_eq_ok_iff.mp built
  obtain ⟨rule, stands, own⟩ := exists_item_of_mapM made selected.found
  obtain ⟨inside, here⟩ := List.getElem?_eq_some_iff.mp stands
  rw [stands, wildcard?, eq_comm, List.find?_eq_some_iff_getElem]
  refine ⟨(Clause.isWildcard_iff_of_ofRule own).mpr underscore, index, inside, here, ?_⟩
  intro place before
  -- An underscore farther in front would accept the value, and so would be selected.
  obtain ⟨earlier, found, done⟩ := exists_result_of_mapM made
    (List.getElem?_eq_getElem (Nat.lt_trans before inside))
  have member : earlier ∈ clauses.take index := by
    refine List.mem_of_getElem? (i := place) ?_
    rw [List.getElem?_take_of_lt before, found]
  rw [Bool.not_eq_true', Bool.eq_false_iff]
  intro wild
  have plain := (Clause.isWildcard_iff_of_ofRule done).mp wild
  have takes : kind.admits earlier.pattern.kind = true := by rw [plain]; rfl
  have missed := selected.first earlier member takes
  rw [(Clause.accepts_of_other_shape apart takes).mpr plain] at missed
  cases missed

/-- Without the rules that a family leaves out, the table gives what the family gives. -/
theorem matchOnce_admitted {matcher : Matcher} (built : Matcher.build table = .ok matcher)
    (kind : MatcherKind) (value : Value) :
    (table.admitted kind).matchOnce value = table.evaluate kind value := by
  obtain ⟨clauses, made, rfl⟩ := map_eq_ok_iff.mp built
  -- Rules and clauses are left out alike, as a clause has the form of its rule.
  have kept : List.Forall₂ (fun rule clause => Clause.ofRule {} rule = .ok clause)
      (table.admitted kind).rules
      (clauses.filter fun clause => kind.admits clause.pattern.kind) := by
    refine List.rel_filter ?_ (mapM_eq_ok_iff.mp made)
    intro rule clause own
    simp [Clause.form?_of_ofRule own]
  have rebuilt : Matcher.build (table.admitted kind) =
      .ok ⟨clauses.filter fun clause => kind.admits clause.pattern.kind⟩ :=
    map_eq_ok_iff.mpr ⟨_, mapM_eq_ok_iff.mpr kept, rfl⟩
  rw [matchOnce, evaluate_of_build rebuilt, evaluate_of_build built]
  -- A clause that accepts the value is in the family for the value's own shape.
  exact select_filter fun clause _ accepted =>
    MatcherKind.admits_of_accepts (MatcherKind.shape_ofShape value.shape) accepted

end RuleTable

/--
A family has nothing but underscores for values of another shape.

The first underscore of the table answers for such a value and is given no arguments, and without
one the value is unmatched. No other clause is selected, wherever it stands, and no other handler
has a say. For every value a family gives what the table gives without the rules that it leaves out.
-/
theorem other_shapes_reach_underscores_alone {table : RuleTable} {matcher : Matcher}
    (built : Matcher.build table = .ok matcher) (kind : MatcherKind) (value : Value) :
    (kind.shape ≠ value.shape →
      table.evaluate kind value = (table.wildcard?.map fun rule => rule.handler.invoke []).getD
        (.error (.noMatchingClause value.text)) ∧
      (∀ index clause bindings,
        Selected (EntryPoint.evaluate kind value).takesPart value matcher.clauses index clause
          bindings →
        table.rules[index]? = table.wildcard? ∧ clause.pattern = .wildcard ∧
          clause.passed value bindings = []) ∧
      ∀ other, table.AgreeOnWildcards other →
        other.evaluate kind value = table.evaluate kind value) ∧
    table.evaluate kind value = (table.admitted kind).matchOnce value := by
  -- The other table can be built too, and it is the underscore that answers for both.
  refine ⟨fun apart => ⟨RuleTable.evaluate_of_other_shape built apart,
    fun _ _ _ => RuleTable.wildcard?_of_selected built apart, ?_⟩,
    (RuleTable.matchOnce_admitted built kind value).symm⟩
  intro other agree
  obtain ⟨rebuilt, again⟩ := agree.exists_build built
  rw [RuleTable.evaluate_of_other_shape again apart, RuleTable.evaluate_of_other_shape built apart,
    agree.wildcard?_eq]

/-- A list passes by the cons pattern that accepts it, when clauses for scalars are asked for. -/
theorem other_shapes_reach_underscores_alone_of_list :
    let one : Handler := .nullary fun _ => .ok (.int 1)
    let two : Handler := .nullary fun _ => .ok (.int 2)
    let refuse : Handler := .unary fun _ => .error (.custom "no")
    let table : RuleTable := ⟨[⟨"12", one⟩, ⟨"(x:_)", refuse⟩, ⟨"_", two⟩, ⟨"_", one⟩]⟩
    let other : RuleTable := ⟨[⟨"12", two⟩, ⟨"(x:_)", .unary .ok⟩, ⟨"_", two⟩, ⟨"_", one⟩]⟩
    let value : Value := .list [.bool true]
    let wild : Clause := ⟨"_", .wildcard, 0, two⟩
    let matcher : Matcher :=
      ⟨[⟨"12", .literal ⟨"12", some (.int 12), false⟩, 0, one⟩,
        ⟨"(x:_)", .cons ⟨["x"], .wildcard⟩, 1, refuse⟩, wild, ⟨"_", .wildcard, 0, one⟩]⟩
    Matcher.build table = .ok matcher ∧ MatcherKind.literal.shape ≠ value.shape ∧
      table.evaluate .literal value = .ok (.int 2) ∧
      Selected (EntryPoint.evaluate .literal value).takesPart value matcher.clauses 2 wild .empty ∧
      table.rules[2]? = table.wildcard? ∧
      table.AgreeOnWildcards other ∧
      other.evaluate .literal value = table.evaluate .literal value ∧
      table.evaluate .literal value = (table.admitted .literal).matchOnce value := by
  intro one two refuse table other value wild matcher
  have built : Matcher.build table = .ok matcher := by cbv
  have apart : MatcherKind.literal.shape ≠ value.shape := by decide
  have selected : Selected (EntryPoint.evaluate .literal value).takesPart value matcher.clauses 2
      wild .empty := by
    refine ⟨rfl, rfl, rfl, ?_⟩
    intro earlier member takes
    -- The literal misses the list, and the cons pattern takes no part.
    rcases List.mem_pair.mp member with rfl | rfl
    · rfl
    · cases takes
  have literal : Rule.isWildcard ⟨"12", one⟩ = false := by cbv
  have cons : Rule.isWildcard ⟨"(x:_)", refuse⟩ = false := by cbv
  have agree : table.AgreeOnWildcards other :=
    .cons ⟨rfl, fun underscore => Bool.noConfusion (literal.symm.trans underscore)⟩
      (.cons ⟨rfl, fun underscore => Bool.noConfusion (cons.symm.trans underscore)⟩
        (.cons ⟨rfl, fun _ => rfl⟩ (.cons ⟨rfl, fun _ => rfl⟩ .nil)))
  obtain ⟨others, same⟩ := other_shapes_reach_underscores_alone built .literal value
  obtain ⟨answer, alone, unaffected⟩ := others apart
  have found : table.wildcard? = some ⟨"_", two⟩ := by cbv
  refine ⟨built, apart, ?_, selected, (alone 2 wild .empty selected).1, agree,
    unaffected other agree, same⟩
  rw [answer, found]
  rfl

end Motif
