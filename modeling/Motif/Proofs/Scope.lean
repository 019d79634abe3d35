import Motif.Proofs.Lookup
import Motif.Proofs.Traversal
import Motif.Scope

/-!
Destructuring by one pattern, after which names ask for the parts.

A request is answered in full, or else the first name in it that the pattern does not bind is named.
-/

namespace Motif

namespace Scope

/-- Taking a value apart ends in one of three ways: no pattern, no match, or a scope. -/
theorem ofMatch_cases (text : String) (value : Value) :
    (∃ error, Pattern.parse text = .error error ∧
      ofMatch text value = .error (.malformedPattern error)) ∨
    (∃ pattern, Pattern.parse text = .ok pattern ∧ pattern.matchFront? value = none ∧
      ofMatch text value = .error (.destructure text value.text)) ∨
    ∃ pattern bindings, Pattern.parse text = .ok pattern ∧
      pattern.matchFront? value = some bindings ∧ ofMatch text value = .ok ⟨pattern, bindings⟩ := by
  unfold ofMatch
  -- The text is read first, so an error of the pattern comes before one of the match.
  cases read : Pattern.parse text with
  | error error => exact .inl ⟨error, rfl, rfl⟩
  | ok pattern =>
    right
    cases matched : pattern.matchFront? value with
    | none => exact .inl ⟨pattern, rfl, matched, by simp only [matched]; rfl⟩
    | some bindings => exact .inr ⟨pattern, bindings, rfl, matched, by simp only [matched]⟩

variable {text : String} {value : Value} {scope : Scope}

/-- A scope is made exactly of a pattern and what it binds. -/
theorem ofMatch_eq_ok_iff :
    ofMatch text value = .ok scope ↔
      Pattern.parse text = .ok scope.pattern ∧
        scope.pattern.matchFront? value = some scope.bindings := by
  obtain ⟨own, bound⟩ := scope
  rcases ofMatch_cases text value with
    ⟨error, read, made⟩ | ⟨pattern, read, missed, made⟩ | ⟨pattern, bindings, read, matched, made⟩
  · simp [read, made]
  · -- The pattern that was read is the only one there could be, and it does not match.
    simp only [read, made, Except.ok.injEq, reduceCtorEq, false_iff, not_and]
    intro same
    simp [← same, missed]
  · simp only [read, made, Except.ok.injEq, Scope.mk.injEq, and_congr_right_iff]
    intro same
    simp [← same, matched]

/-- A text that is no pattern is reported with the error that it has as a pattern. -/
theorem ofMatch_eq_malformed_iff {error : PatternError} :
    ofMatch text value = .error (.malformedPattern error) ↔
      Pattern.parse text = .error error := by
  -- Of the three ways to end only one has such an error.
  rcases ofMatch_cases text value with
    ⟨error, read, made⟩ | ⟨pattern, read, missed, made⟩ | ⟨pattern, bindings, read, matched, made⟩
  all_goals simp [read, made]

/-- A value is reported when there is a pattern and it does not accept the value. -/
theorem ofMatch_eq_destructure_iff {shown described : String} :
    ofMatch text value = .error (.destructure shown described) ↔
      (shown = text ∧ described = value.text) ∧
        ∃ pattern, Pattern.parse text = .ok pattern ∧ pattern.matchFront? value = none := by
  -- Of the three ways to end only one has such an error.
  rcases ofMatch_cases text value with
    ⟨error, read, made⟩ | ⟨pattern, read, missed, made⟩ | ⟨pattern, bindings, read, matched, made⟩
  · simp [read, made]
  · simp [read, made, missed, eq_comm]
  · simp [read, made, matched]

/-- A scope whose names are those of its pattern, all of them different. -/
structure Sound (scope : Scope) : Prop where
  names : scope.bindings.names = scope.pattern.binders
  distinct : scope.pattern.binders.Nodup

/-- Reading turns repeated names down, and a match binds the names that are left. -/
theorem sound_of_ofMatch (made : ofMatch text value = .ok scope) : scope.Sound := by
  -- A scope has a pattern that was read and a match of that pattern.
  obtain ⟨read, matched⟩ := ofMatch_eq_ok_iff.mp made
  exact ⟨Pattern.names_of_matchBy? matched, Pattern.binders_nodup_of_parseWith read⟩

/-- A name of the pattern stands for the value in its place. -/
theorem Sound.lookup_of_binder (sound : scope.Sound) {place : Nat} {name : String}
    (found : scope.pattern.binders[place]? = some name) :
    ∃ bound, scope.bindings.values[place]? = some bound ∧ scope.lookup name = .ok bound := by
  -- Names in the bindings are those of the pattern, in the same places.
  have distinct := sound.names ▸ sound.distinct
  obtain ⟨bound, stands, known⟩ :=
    Bindings.exists_value_of_names distinct (sound.names ▸ found)
  exact ⟨bound, stands, by rw [lookup, known]⟩

/-- Any other name is unbound. -/
theorem Sound.lookup_of_other (sound : scope.Sound) {name : String}
    (other : name ∉ scope.pattern.binders) :
    scope.lookup name = .error (.unboundVariable name) := by
  -- An entry with that name would put it among the names of the pattern.
  have none : scope.bindings.get? name = none := by
    rw [Bindings.get?, Option.map_eq_none_iff, List.find?_eq_none]
    intro entry member same
    exact other (sound.names ▸ List.mem_map.mpr ⟨entry, member, by simpa using same⟩)
  rw [lookup, none]

/-- The names that have a value are those of the pattern. -/
theorem Sound.lookup_eq_ok_iff (sound : scope.Sound) {name : String} :
    (∃ bound, scope.lookup name = .ok bound) ↔ name ∈ scope.pattern.binders := by
  -- A name of the pattern has a place there, and every other one is unbound.
  constructor
  · intro known
    obtain ⟨bound, known⟩ := known
    by_contra other
    rw [sound.lookup_of_other other] at known
    cases known
  · intro member
    obtain ⟨place, found⟩ := List.mem_iff_getElem?.mp member
    obtain ⟨bound, _, known⟩ := sound.lookup_of_binder found
    exact ⟨bound, known⟩

/-- A request succeeds when the pattern binds every name in it. -/
theorem Sound.extract_eq_ok_iff (sound : scope.Sound) {names : List String} :
    (∃ values, scope.extract names = .ok values) ↔
      ∀ name ∈ names, name ∈ scope.pattern.binders := by
  -- Names are looked up one by one, so the request succeeds when all of them do.
  constructor
  · intro done
    obtain ⟨values, done⟩ := done
    intro name member
    obtain ⟨index, found⟩ := List.mem_iff_getElem?.mp member
    obtain ⟨bound, _, known⟩ := exists_result_of_mapM done found
    exact sound.lookup_eq_ok_iff.mp ⟨bound, known⟩
  · intro known
    exact exists_mapM_eq_ok fun name member => sound.lookup_eq_ok_iff.mpr (known name member)

/-- A request fails at the first name in it that the pattern does not bind. -/
theorem Sound.extract_eq_error (sound : scope.Sound) {names : List String} {name : String}
    (first : names.find? (fun name => name ∉ scope.pattern.binders) = some name) :
    scope.extract names = .error (.unboundVariable name) := by
  obtain ⟨other, index, inside, rfl, before⟩ := List.find?_eq_some_iff_getElem.mp first
  -- All names before it are known, so it is the first one to fail.
  refine mapM_eq_error_of_first (List.getElem?_eq_getElem inside)
    (sound.lookup_of_other (by simpa using other)) ?_
  intro place earlier name found
  obtain ⟨within, rfl⟩ := List.getElem?_eq_some_iff.mp found
  exact sound.lookup_eq_ok_iff.mpr (by simpa using before place earlier)

/-- The answer to a request has the value of each name in the place of that name. -/
theorem Sound.values_of_extract (sound : scope.Sound) {names : List String} {values : List Value}
    (done : scope.extract names = .ok values) {index : Nat} {name : String}
    (asked : names[index]? = some name) :
    ∃ place bound, (∀ other : Nat, scope.pattern.binders[other]? = some name ↔ other = place) ∧
      scope.bindings.values[place]? = some bound ∧ values[index]? = some bound := by
  -- Each name of the request was looked up, and the value was put in its place.
  obtain ⟨bound, given, known⟩ := exists_result_of_mapM done asked
  obtain ⟨place, found⟩ := List.mem_iff_getElem?.mp (sound.lookup_eq_ok_iff.mp ⟨bound, known⟩)
  obtain ⟨own, stands, same⟩ := sound.lookup_of_binder found
  obtain rfl : bound = own := Except.ok.inj (known.symm.trans same)
  refine ⟨place, bound, ?_, stands, given⟩
  -- No name of the pattern stands in two places.
  intro other
  constructor
  · intro again
    obtain ⟨within, _⟩ := List.getElem?_eq_some_iff.mp again
    exact (List.getElem?_inj within sound.distinct).mp (again.trans found.symm)
  · intro same
    rw [same, found]

/-- Asking for all names in order gives all values in order. -/
theorem Sound.extract_binders (sound : scope.Sound) :
    scope.extract scope.pattern.binders = .ok scope.bindings.values := by
  -- The entries have the names in one column and the values in the other.
  refine mapM_eq_ok_iff.mpr ?_
  rw [← sound.names, Bindings.names, Bindings.values, List.forall₂_map_left_iff,
    List.forall₂_map_right_iff, List.forall₂_same]
  intro entry member
  obtain ⟨place, found⟩ := List.mem_iff_getElem?.mp member
  rw [lookup, Bindings.get?_of_distinct (sound.names ▸ sound.distinct) found]

/-- How a scope answers a request for some names. -/
structure Answers (scope : Scope) (names : List String) : Prop where
  /-- There are values when every name is one of the pattern. -/
  complete : (∃ values, scope.extract names = .ok values) ↔
    ∀ name ∈ names, name ∈ scope.pattern.binders
  /-- There is one value for each name asked for. -/
  length : ∀ values, scope.extract names = .ok values → values.length = names.length
  /-- It is the one that was bound in the only place that the name has in the pattern. -/
  value : ∀ values, scope.extract names = .ok values →
    ∀ (index : Nat) (name : String), names[index]? = some name → ∃ place bound,
      (∀ other : Nat, scope.pattern.binders[other]? = some name ↔ other = place) ∧
        scope.bindings.values[place]? = some bound ∧ values[index]? = some bound
  /-- Otherwise the first name that is not one of the pattern is reported. -/
  unbound : ∀ name, names.find? (fun name => name ∉ scope.pattern.binders) = some name →
    scope.extract names = .error (.unboundVariable name)
  /-- A function runs on the values and on nothing else. -/
  ran : ∀ (α : Type) (body : List Value → α) (values : List Value),
    scope.extract names = .ok values → scope.apply names body = .ok (body values)
  /-- Without them it has no say. -/
  failed : ∀ (α : Type) (body : List Value → α) (error : EvalError),
    scope.extract names = .error error → scope.apply names body = .error error

/-- A scope whose names are those of its pattern and differ answers every request. -/
theorem Sound.answers (sound : scope.Sound) (names : List String) : scope.Answers names := by
  refine ⟨sound.extract_eq_ok_iff, ?length, ?value, fun _ => sound.extract_eq_error, ?ran, ?failed⟩
  case length =>
    intro values done
    exact (mapM_eq_ok_iff.mp done).length_eq.symm
  case value =>
    intro values done index name asked
    exact sound.values_of_extract done asked
  -- The function is handed the outcome of the request, and an error goes past it.
  case ran | failed =>
    intro α body result done
    rw [apply, done]
    rfl

/--
A scope answers requests for names with exactly their values, or says which name it does not know.

Taking a value apart fails where the text is no pattern, and else where the pattern does not accept
the value. A request for all names in order gives all that was bound.
-/
theorem scope_answers_requests (text : String) (value : Value) :
    (∀ error, ofMatch text value = .error (.malformedPattern error) ↔
      Pattern.parse text = .error error) ∧
    (∀ shown described, ofMatch text value = .error (.destructure shown described) ↔
      (shown = text ∧ described = value.text) ∧
        ∃ pattern, Pattern.parse text = .ok pattern ∧ pattern.matchFront? value = none) ∧
    (∀ scope, ofMatch text value = .ok scope ↔
      Pattern.parse text = .ok scope.pattern ∧
        scope.pattern.matchFront? value = some scope.bindings) ∧
    (∀ error, ofMatch text value = .error error →
      (∃ fault, error = .malformedPattern fault) ∨
        ∃ shown described, error = .destructure shown described) ∧
    ∀ scope, ofMatch text value = .ok scope →
      scope.bindings.names = scope.pattern.binders ∧
        scope.extract scope.pattern.binders = .ok scope.bindings.values ∧
        ∀ names, scope.Answers names := by
  refine ⟨fun _ => ofMatch_eq_malformed_iff, fun _ _ => ofMatch_eq_destructure_iff,
    fun _ => ofMatch_eq_ok_iff, ?_, ?_⟩
  · intro error failed
    rcases ofMatch_cases text value with
      ⟨fault, _, made⟩ | ⟨_, _, _, made⟩ | ⟨_, _, _, _, made⟩ <;> rw [made] at failed <;>
      cases failed
    · exact .inl ⟨fault, rfl⟩
    · exact .inr ⟨_, _, rfl⟩
  · intro scope made
    -- Whatever is asked of a scope follows from its names being those of the pattern.
    have sound := sound_of_ofMatch made
    exact ⟨sound.names, sound.extract_binders, sound.answers⟩

/-- Names may be asked for in any order and again, and an unknown one is reported before others. -/
theorem scope_answers_requests_out_of_order :
    let value : Value := .list [.null, .list [.bool true, .null], .null, .null]
    let scope : Scope :=
      ⟨.list [.binder "a", .cons ⟨["x"], .binder "xs"⟩, .wildcard],
        ⟨[("a", .null), ("x", .bool true), ("xs", .list [.null])]⟩⟩
    ofMatch "[a, (x:xs), _]" value = .ok scope ∧
      scope.Answers ["xs", "a", "xs"] ∧
      scope.extract ["x", "y", "z"] = .error (.unboundVariable "y") := by
  intro value scope
  have made : ofMatch "[a, (x:xs), _]" value = .ok scope := by cbv
  have answers := ((scope_answers_requests "[a, (x:xs), _]" value).2.2.2.2 scope made).2.2
  exact ⟨made, answers _, (answers ["x", "y", "z"]).unbound "y" (by decide)⟩

end Scope
end Motif
