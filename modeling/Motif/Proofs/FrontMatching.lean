import Motif.Proofs.ListMatching

/-!
Matching the front of a list.

A list pattern that ends in `_` is matched against as many elements as it has slots, and any other
pattern is matched against the whole value.
-/

namespace Motif

namespace Slot

/-- Elements that are left over behind the slots make no difference. -/
theorem bindAll?_take (slots : List Slot) (items : List Value) :
    bindAll? slots (items.take slots.length) = bindAll? slots items := by
  -- The slots run out where the elements that were taken do.
  induction slots generalizing items with
  | nil => simp [bindAll?]
  | cons slot slots ih =>
    cases items with
    | nil => rfl
    | cons item items => simp only [List.length_cons, List.take_succ_cons, bindAll?, ih]

/-- Slots that do not end in `_` fit only lists of their own length, under either rule. -/
theorem fit_of_closed {slots : List Slot} (closed : slots.getLast? ≠ some .wildcard)
    (rule : LengthRule) (length : Nat) : fit rule slots length = (slots.length == length) := by
  -- Only the branch for a wildcard at the end looks at the rule.
  unfold fit
  split
  · rename_i last
    exact absurd last closed
  · rfl

/-- Slots up to a cons slot take one element each, so what has to fit is behind them. -/
theorem fit_append_cons (rule : LengthRule) (before after : List Slot) (parts : ConsPattern)
    (length : Nat) :
    fit rule (before ++ .cons parts :: after) (before.length + (length + 1)) =
      fit rule after length := by
  cases last : after.getLast? with
  | none =>
    -- Then the cons slot itself is the last one, and it is no wildcard.
    obtain rfl := List.getLast?_eq_none_iff.mp last
    have closed : (before ++ [Slot.cons parts]).getLast? ≠ some .wildcard := by simp
    rw [fit_of_closed closed, fit_of_closed (by simp)]
    simp [eq_comm]
  | some final =>
    have same : (before ++ .cons parts :: after).getLast? = some final := by
      simp [List.getLast?_append, List.getLast?_cons, last]
    simp only [fit, same, last]
    split <;> simp

end Slot

namespace Pattern

/-- A list pattern that ends in `_`, and a list with an element for each of its slots. -/
def IsOpenFor (pattern : Pattern) (value : Value) : Prop :=
  ∃ slots items, pattern = .list slots ∧ value = .list items ∧
    slots.getLast? = some .wildcard ∧ slots.length ≤ items.length

/-- A list is matched by its slots when these fit its length. -/
theorem matchBy?_list (rule : LengthRule) (slots : List Slot) (items : List Value) :
    (list slots).matchBy? rule (.list items) =
      if Slot.fit rule slots items.length then Slot.bindAll? slots items else none := rfl

/-- A list pattern that ends in `_` binds what its slots bind in any list that is long enough. -/
theorem matchFront?_of_open {slots : List Slot} (ends : slots.getLast? = some .wildcard)
    (items : List Value) :
    (list slots).matchFront? (.list items) =
      if slots.length ≤ items.length then Slot.bindAll? slots items else none := by
  -- With a wildcard at the end, slots fit every list that is long enough.
  simp only [matchFront?, matchBy?_list, Slot.fit, ends, decide_eq_true_eq]

/-- Further elements are passed over by a list pattern that ends in `_`. -/
theorem matchFront?_eq_match?_take {slots : List Slot} {items : List Value}
    (ends : slots.getLast? = some .wildcard) (enough : slots.length ≤ items.length) :
    (list slots).matchFront? (.list items) =
      (list slots).match? (.list (items.take slots.length)) := by
  -- The list that was cut has an element for each slot, so the whole of it is matched.
  have same : slots.length = (items.take slots.length).length := by simp [enough]
  rw [matchFront?_of_open ends, if_pos enough, match?_list, if_pos same, Slot.bindAll?_take]

/-- Where there are no further elements to pass over, the two ways to match agree. -/
theorem matchFront?_eq_match? {pattern : Pattern} {value : Value}
    (other : ¬ pattern.IsOpenFor value) :
    pattern.matchFront? value = pattern.match? value := by
  cases pattern with
  | list slots =>
    cases value with
    | list items =>
      by_cases ends : slots.getLast? = some .wildcard
      · -- The list is too short for either way to match.
        have short : ¬ slots.length ≤ items.length := fun enough =>
          other ⟨slots, items, rfl, rfl, ends, enough⟩
        rw [matchFront?_of_open ends, if_neg short, match?_list, if_neg fun same => short same.le]
      · rw [matchFront?, match?, matchBy?_list, matchBy?_list, Slot.fit_of_closed ends,
          Slot.fit_of_closed ends]
    | null | bool | int | float | string | object => rfl
  | cons | typeTag => cases value <;> rfl
  | wildcard | literal => rfl

/-- A match of the whole value is a match of its front. -/
theorem matchFront?_of_match? {pattern : Pattern} {value : Value} {bindings : Bindings}
    (matched : pattern.match? value = some bindings) :
    pattern.matchFront? value = some bindings := by
  by_cases longer : pattern.IsOpenFor value
  · obtain ⟨slots, items, rfl, rfl, ends, enough⟩ := longer
    -- Since the whole list was matched, cutting it to its front leaves it as it is.
    have same : slots.length = items.length := by
      by_contra differs
      rw [match?_list, if_neg differs] at matched
      cases matched
    rw [matchFront?_eq_match?_take ends enough, same, List.take_length, matched]
  · rw [matchFront?_eq_match? longer, matched]

/-- A longer list gives what its front gave to a list pattern that ends in `_`. -/
theorem matchFront?_append {slots : List Slot} {items : List Value} {bindings : Bindings}
    (ends : slots.getLast? = some .wildcard)
    (matched : (list slots).matchFront? (.list items) = some bindings) (more : List Value) :
    (list slots).matchFront? (.list (items ++ more)) = some bindings := by
  -- The front was matched, so there are elements for all slots in it.
  have enough : slots.length ≤ items.length := by
    by_contra short
    rw [matchFront?_of_open ends, if_neg short] at matched
    cases matched
  rw [matchFront?_eq_match?_take ends enough] at matched
  -- Those elements are in front of the longer list too.
  have longer : slots.length ≤ (items ++ more).length := by
    rw [List.length_append]
    exact enough.trans (Nat.le_add_right ..)
  rw [matchFront?_eq_match?_take ends longer, List.take_append_of_le_length enough, matched]

/-- A cons slot binds what its cons pattern binds, whichever rules the two are matched under. -/
theorem matchBy?_nested_cons (rule own : LengthRule) {before : List Slot} {items : List Value}
    (same : before.length = items.length) (parts : ConsPattern) (item : Value)
    (after : List Slot) (rest : List Value) :
    (list (before ++ .cons parts :: after)).matchBy? rule (.list (items ++ item :: rest)) =
      ((list before).match? (.list items)).bind fun first =>
        ((cons parts).matchBy? own item).bind fun nested =>
          ((list after).matchBy? rule (.list rest)).map fun last => first ++ nested ++ last := by
  -- By itself a cons pattern asks for a list, and so does the slot.
  have alone : (cons parts).matchBy? own item = (Slot.cons parts).bind? item := by
    cases item <;> rfl
  rw [matchBy?_list, matchBy?_list, List.length_append, List.length_cons, ← same,
    Slot.fit_append_cons, match?_list, if_pos same, alone, Slot.bindAll?_append same]
  -- Whether the list fits is decided behind the cons slot.
  by_cases fits : Slot.fit rule after rest.length = true
  · simp only [fits, if_true, Slot.bindAll?, Option.bind_eq_bind]
    cases Slot.bindAll? before items <;> cases (Slot.cons parts).bind? item <;>
      cases Slot.bindAll? after rest <;> simp [Bindings.append_assoc]
  · simp only [fits]
    cases Slot.bindAll? before items <;> cases (Slot.cons parts).bind? item <;> rfl

/--
A front is matched as the whole value is, but for a list that is cut to the slots before.

The list is cut when the pattern is a list pattern that ends in `_` and has no more slots than
there are elements. So a match of the whole value is one of its front, further elements never undo
or change a match of a list pattern that ends in `_`, and a cons slot is matched in the same way
under either rule.
-/
theorem front_is_matched_as_cut_list :
    (∀ (slots : List Slot) (items : List Value), slots.getLast? = some .wildcard →
      slots.length ≤ items.length →
        (list slots).matchFront? (.list items) =
          (list slots).match? (.list (items.take slots.length))) ∧
    (∀ (pattern : Pattern) (value : Value), ¬ pattern.IsOpenFor value →
      pattern.matchFront? value = pattern.match? value) ∧
    (∀ (pattern : Pattern) (value : Value) (bindings : Bindings),
      pattern.match? value = some bindings →
        pattern.matchFront? value = some bindings) ∧
    (∀ (slots : List Slot) (items : List Value) (bindings : Bindings),
      slots.getLast? = some .wildcard →
      (list slots).matchFront? (.list items) = some bindings →
        ∀ more, (list slots).matchFront? (.list (items ++ more)) = some bindings) ∧
    ∀ (rule own : LengthRule) before items, before.length = items.length →
      ∀ parts item after rest,
        (list (before ++ .cons parts :: after)).matchBy? rule (.list (items ++ item :: rest)) =
          ((list before).match? (.list items)).bind fun first =>
            ((cons parts).matchBy? own item).bind fun nested =>
              ((list after).matchBy? rule (.list rest)).map fun last =>
                first ++ nested ++ last := by
  refine ⟨fun _ _ => matchFront?_eq_match?_take, fun _ _ => matchFront?_eq_match?,
    fun _ _ _ => matchFront?_of_match?, fun _ _ _ => matchFront?_append,
    fun rule own _ _ => matchBy?_nested_cons rule own⟩

/-- The last slot takes one element of four, and the cons slot before it takes a list apart. -/
theorem front_is_matched_as_cut_list_of_nested :
    let before : List Slot := [.binder "a"]
    let parts : ConsPattern := ⟨["x"], .binder "xs"⟩
    let slots : List Slot := before ++ .cons parts :: [.wildcard]
    let inner : Value := .list [.bool true, .null]
    let front : List Value := [.null, inner, .null]
    let bindings : Bindings := ⟨[("a", .null), ("x", .bool true), ("xs", .list [.null])]⟩
    slots.getLast? = some .wildcard ∧ slots.length ≤ (front ++ [Value.null]).length ∧
      (list slots).matchFront? (.list (front ++ [Value.null])) =
        (list slots).match? (.list ((front ++ [Value.null]).take slots.length)) ∧
      (list slots).match? (.list front) = some bindings ∧
      (list slots).matchFront? (.list front) = some bindings ∧
      (list slots).matchFront? (.list (front ++ [Value.null])) = some bindings ∧
      ¬ (list before).IsOpenFor (.list front) ∧
      (list before).matchFront? (.list front) = (list before).match? (.list front) ∧
      before.length = [Value.null].length ∧
      (list slots).matchBy? .openEnded (.list ([.null] ++ inner :: [.null, .null])) =
        ((list before).match? (.list [.null])).bind fun first =>
          ((cons parts).matchBy? .exact inner).bind fun nested =>
            ((list [.wildcard]).matchBy? .openEnded (.list [.null, .null])).map fun last =>
              first ++ nested ++ last := by
  intro before parts slots inner front bindings
  have ends : slots.getLast? = some .wildcard := rfl
  have enough : slots.length ≤ (front ++ [Value.null]).length := by decide
  have whole : (list slots).match? (.list front) = some bindings := rfl
  have closed : ¬ (list before).IsOpenFor (.list front) := by
    rintro ⟨own, items, same, -, last, -⟩
    cases same
    cases last
  obtain ⟨cut, other, kept, longer, nested⟩ := front_is_matched_as_cut_list
  have matched := kept _ _ _ whole
  exact ⟨ends, enough, cut slots _ ends enough, whole, matched, longer _ _ _ ends matched _, closed,
    other _ _ closed, rfl, nested .openEnded .exact before [.null] rfl parts inner _ _⟩

end Pattern

end Motif
