import Motif.Proofs.Matching
import Motif.Proofs.OnePass

/-!
Lists are matched part by part.

The slots of a list pattern go each by itself, and the heads of a cons pattern one by one.
-/

namespace Motif

namespace Bindings

/-- All bindings of some parts, one part after the other. -/
def concat (parts : List Bindings) : Bindings :=
  ⟨parts.flatMap entries⟩

/-- Bindings without those of one name. -/
def without (name : String) (bindings : Bindings) : Bindings :=
  ⟨bindings.entries.filter fun entry => entry.1 ≠ name⟩

/-- The values for some names are the elements in front, one for each name. -/
theorem values_zip {names : List String} {items : List Value}
    (enough : names.length ≤ items.length) :
    (Bindings.mk (names.zip items)).values = items.take names.length := by
  -- Names and elements are paired until the names run out.
  induction names generalizing items with
  | nil => rfl
  | cons name names ih =>
    cases items with
    | nil => cases enough
    | cons item items => exact congrArg (item :: ·) (ih (Nat.le_of_succ_le_succ enough))

end Bindings

namespace Slot

/-- What a slot by itself makes of an element: a name takes it, and all else is a whole pattern. -/
def alone? (item : Value) : Slot → Option Bindings
  | .binder name => some (.single name item)
  | .literal value => (Pattern.literal value).match? item
  | .wildcard => Pattern.wildcard.match? item
  | .cons parts => (Pattern.cons parts).match? item

/-- Within a list a slot accepts what it accepts by itself. -/
theorem bind?_eq_alone? (slot : Slot) (item : Value) : slot.bind? item = slot.alone? item := by
  -- Only a cons pattern looks at the shape first, and the slot asks for a list just as well.
  cases slot with
  | cons parts => cases item <;> rfl
  | literal | binder | wildcard => rfl

variable {slots : List Slot} {items : List Value}

/-- Slots bind what each of them binds for its own element, one after the other. -/
theorem bindAll?_eq_some_iff {bindings : Bindings} :
    bindAll? slots items = some bindings ↔
      ∃ parts, List.Forall₂ (fun pair part => alone? pair.2 pair.1 = some part) (slots.zip items)
        parts ∧ bindings = .concat parts := by
  induction slots generalizing items bindings with
  | nil => simp [bindAll?, Bindings.concat, Bindings.empty, eq_comm]
  | cons slot slots ih =>
    cases items with
    | nil => simp [bindAll?, Bindings.concat, Bindings.empty, eq_comm]
    | cons item items =>
      simp only [bindAll?, bind?_eq_alone?, Option.bind_eq_bind, Option.bind_eq_some_iff, ih,
        List.zip_cons_cons, List.forall₂_cons_left_iff]
      -- What the front slot binds comes first on both sides.
      constructor
      · intro bound
        obtain ⟨first, own, behind, ⟨parts, others, rfl⟩, same⟩ := bound
        cases same
        exact ⟨first :: parts, ⟨first, parts, own, others, rfl⟩, rfl⟩
      · intro split
        obtain ⟨_, ⟨first, parts, own, others, rfl⟩, rfl⟩ := split
        exact ⟨first, own, .concat parts, ⟨parts, others, rfl⟩, rfl⟩

/-- Slots accept some elements when each of them accepts its own. -/
theorem bindAll?_isSome_iff :
    (bindAll? slots items).isSome = true ↔
      ∀ pair ∈ slots.zip items, (alone? pair.2 pair.1).isSome = true := by
  induction slots generalizing items with
  | nil => simp [bindAll?]
  | cons slot slots ih =>
    cases items with
    | nil => simp [bindAll?]
    | cons item items =>
      simp only [bindAll?, bind?_eq_alone?, List.zip_cons_cons, List.forall_mem_cons, ← ih]
      -- Either the front slot fails, or one behind it, or none.
      cases alone? item slot <;> cases bindAll? slots items <;> simp

/-- Slots in two groups are matched group by group. -/
theorem bindAll?_append {others : List Slot} {rest : List Value}
    (same : slots.length = items.length) :
    bindAll? (slots ++ others) (items ++ rest) =
      (bindAll? slots items).bind fun first => (bindAll? others rest).map (first ++ ·) := by
  induction slots generalizing items with
  | nil =>
    obtain rfl := List.length_eq_zero_iff.mp same.symm
    have unchanged : (Bindings.empty ++ ·) = (id : Bindings → Bindings) := rfl
    simp [bindAll?, unchanged]
  | cons slot slots ih =>
    cases items with
    | nil => cases same
    | cons item items =>
      -- The front slot binds before the first group goes on, and in front of what that binds.
      simp only [List.cons_append, bindAll?, Option.bind_eq_bind, ih (Nat.succ.inj same)]
      cases slot.bind? item <;> cases bindAll? slots items <;> cases bindAll? others rest <;>
        simp [Bindings.append_assoc]

end Slot

namespace Pattern

/-- A list as a whole is matched when it has as many elements as there are slots. -/
theorem match?_list (slots : List Slot) (items : List Value) :
    (list slots).match? (.list items) =
      if slots.length = items.length then Slot.bindAll? slots items else none := by
  -- Whatever the last slot is, the lengths have to agree.
  have fit : Slot.fit .exact slots items.length = (slots.length == items.length) := by
    cases slots.getLast? <;> rfl
  simp [match?, matchBy?, fit]

/-- The first slots and the first elements are matched apart from the others. -/
theorem match?_list_append {slots others : List Slot} {items rest : List Value}
    (same : slots.length = items.length) :
    (list (slots ++ others)).match? (.list (items ++ rest)) =
      ((list slots).match? (.list items)).bind fun first =>
        ((list others).match? (.list rest)).map (first ++ ·) := by
  -- With equal numbers in front, all the numbers agree exactly when those behind do.
  simp only [match?_list, List.length_append, same, Nat.add_left_cancel_iff, if_true]
  split
  · exact Slot.bindAll?_append same
  · simp

/-- A cons pattern takes the heads off a list that is long enough, and its tail gets the rest. -/
theorem match?_cons (parts : ConsPattern) (items : List Value) :
    (cons parts).match? (.list items) =
      if parts.heads.length ≤ items.length then
        some (⟨parts.heads.zip items⟩ ++ parts.tail.bind (items.drop parts.heads.length))
      else none := by
  simp only [match?, matchBy?, ConsPattern.bind?, ← Nat.not_lt, ite_not]

/-- The values of the heads and the elements of the tail make up the list. -/
theorem values_of_match?_cons {parts : ConsPattern} {items : List Value} {bindings : Bindings}
    (matched : (cons parts).match? (.list items) = some bindings) :
    bindings.names = parts.binders ∧
    (∀ name, parts.tail = .binder name → ∃ front rest, front ++ rest = items ∧
      front.length = parts.heads.length ∧ bindings.values = front ++ [.list rest]) ∧
    (parts.tail = .wildcard → bindings.values = items.take parts.heads.length) := by
  refine ⟨names_of_matchBy? matched, ?_⟩
  rw [match?_cons] at matched
  by_cases enough : parts.heads.length ≤ items.length
  · rw [if_pos enough] at matched
    cases matched
    -- The heads have the elements in front, and what the tail binds comes behind.
    have values (tail : Bindings) : (⟨parts.heads.zip items⟩ ++ tail : Bindings).values =
        items.take parts.heads.length ++ tail.values := by
      rw [← Bindings.values_zip enough]
      simp [Bindings.values]
    refine ⟨?_, ?_⟩
    · intro name tail
      refine ⟨_, _, List.take_append_drop parts.heads.length items, ?_, ?_⟩
      · simp [enough]
      · rw [values, tail]
        rfl
    · intro tail
      rw [values, tail]
      exact List.append_nil _
  · rw [if_neg enough] at matched
    cases matched

/-- Heads may be taken off one by one, while a name of its own keeps what is left of the list. -/
theorem match?_cons_cons {head name : String} (heads : List String) (tail : Tail) (value : Value)
    (fresh : name ≠ head) :
    (cons ⟨head :: heads, tail⟩).match? value =
      ((cons ⟨[head], .binder name⟩).match? value).bind fun first =>
        (first.get? name).bind fun rest =>
          ((cons ⟨heads, tail⟩).match? rest).map (first.without name ++ ·) := by
  cases value with
  | list items =>
    cases items with
    | nil => rfl
    | cons item items =>
      -- One head takes the first element, and the name stands for all the others.
      let first : Bindings := ⟨[(head, item), (name, .list items)]⟩
      have taken : (cons ⟨[head], .binder name⟩).match? (.list (item :: items)) = some first := rfl
      have kept : first.get? name = some (.list items) := by simp [first, Bindings.get?, fresh.symm]
      have left : first.without name = .single head item := by
        simp [first, Bindings.without, Bindings.single, fresh.symm]
      rw [taken, Option.bind_some, kept, Option.bind_some, left, match?_cons, match?_cons]
      by_cases enough : heads.length ≤ items.length
      · simp [enough]
        rfl
      · simp [enough]
  -- Nothing but a list has heads.
  | null | bool | int | float | string | object => rfl

/--
A list is matched part by part, and nothing of it is lost.

One pass that adds names to those bound already finds what the parts bind by themselves. A list
pattern accepts a list of the same length when each slot accepts its element, as it would by itself,
and binds what the slots bind in order. Slots in two groups may be matched group by group. A cons
pattern takes one element for each head and leaves the others to the tail, and its heads may be
taken off one by one.
-/
theorem lists_match_part_by_part :
    (∀ rule pattern value, passOver? rule pattern value = pattern.matchBy? rule value) ∧
    (∀ slots items bindings, (list slots).match? (.list items) = some bindings ↔
      slots.length = items.length ∧
        ∃ parts, List.Forall₂ (fun pair part => Slot.alone? pair.2 pair.1 = some part)
          (slots.zip items) parts ∧ bindings = .concat parts) ∧
    (∀ slots items, ((list slots).match? (.list items)).isSome = true ↔
      slots.length = items.length ∧
        ∀ pair ∈ slots.zip items, (Slot.alone? pair.2 pair.1).isSome = true) ∧
    (∀ slots others items rest, slots.length = items.length →
      (list (slots ++ others)).match? (.list (items ++ rest)) =
        ((list slots).match? (.list items)).bind fun first =>
          ((list others).match? (.list rest)).map (first ++ ·)) ∧
    (∀ parts items, ((cons parts).match? (.list items)).isSome = true ↔
      parts.heads.length ≤ items.length) ∧
    (∀ parts items bindings, (cons parts).match? (.list items) = some bindings →
      bindings.names = parts.binders ∧
      (∀ name, parts.tail = .binder name → ∃ front rest, front ++ rest = items ∧
        front.length = parts.heads.length ∧ bindings.values = front ++ [.list rest]) ∧
      (parts.tail = .wildcard → bindings.values = items.take parts.heads.length)) ∧
    ∀ head heads tail name value, name ≠ head →
      (cons ⟨head :: heads, tail⟩).match? value =
        ((cons ⟨[head], .binder name⟩).match? value).bind fun first =>
          (first.get? name).bind fun rest =>
            ((cons ⟨heads, tail⟩).match? rest).map (first.without name ++ ·) := by
  refine ⟨passOver?_eq_matchBy?, ?_, ?_, fun _ _ _ _ => match?_list_append, ?_,
    fun _ _ _ => values_of_match?_cons,
    fun head heads tail name value => match?_cons_cons heads tail value⟩
  · intro slots items bindings
    rw [match?_list, Option.ite_none_right_eq_some, Slot.bindAll?_eq_some_iff]
  · intro slots items
    rw [match?_list, ← Slot.bindAll?_isSome_iff]
    by_cases same : slots.length = items.length <;> simp [same]
  · intro parts items
    rw [match?_cons]
    by_cases enough : parts.heads.length ≤ items.length <;> simp [enough]

/-- A cons slot is matched apart from the slots before it, and its heads apart from each other. -/
theorem lists_match_part_by_part_of_nested :
    let front : List Slot := [.literal ⟨"a", none, true⟩, .binder "x"]
    let behind : List Slot := [.cons ⟨["h", "k"], .binder "t"⟩]
    let items : List Value := [.string "a", .null]
    let inner : Value := .list [.bool true, .null, .null]
    front.length = items.length ∧
      (list (front ++ behind)).match? (.list (items ++ [inner])) =
        ((list front).match? (.list items)).bind (fun first =>
          ((list behind).match? (.list [inner])).map (first ++ ·)) ∧
      (cons ⟨["h", "k"], .binder "t"⟩).match? inner =
        some ⟨[("h", .bool true), ("k", .null), ("t", .list [.null])]⟩ ∧
      (∃ heads rest, heads ++ rest = [.bool true, .null, .null] ∧ heads.length = 2 ∧
        [Value.bool true, .null, .list [.null]] = heads ++ [.list rest]) ∧
      (cons ⟨["h"], .wildcard⟩).match? inner = some ⟨[("h", .bool true)]⟩ ∧
      [Value.bool true] = [Value.bool true, .null, .null].take 1 ∧
      "r" ≠ "h" ∧
      (cons ⟨["h", "k"], .binder "t"⟩).match? inner =
        ((cons ⟨["h"], .binder "r"⟩).match? inner).bind fun first =>
          (first.get? "r").bind fun rest =>
            ((cons ⟨["k"], .binder "t"⟩).match? rest).map (first.without "r" ++ ·) := by
  intro front behind items inner
  have same : front.length = items.length := rfl
  have fresh : "r" ≠ "h" := by decide
  have named : (cons ⟨["h", "k"], .binder "t"⟩).match? inner =
      some ⟨[("h", .bool true), ("k", .null), ("t", .list [.null])]⟩ := rfl
  have unnamed : (cons ⟨["h"], .wildcard⟩).match? inner = some ⟨[("h", .bool true)]⟩ := rfl
  obtain ⟨_, _, _, groups, _, values, singly⟩ := lists_match_part_by_part
  exact ⟨same, groups front behind items [inner] same,
    named, (values _ _ _ named).2.1 "t" rfl, unnamed, (values _ _ _ unnamed).2.2 rfl,
    fresh, singly "h" ["k"] (.binder "t") "r" inner fresh⟩

end Pattern

end Motif
