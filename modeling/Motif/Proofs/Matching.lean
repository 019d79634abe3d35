import Mathlib
import Motif.Matching
import Motif.Pattern.Binders

/-! What a match binds: the names of its pattern in order, each with one value. -/

namespace Motif

namespace Bindings

/-- The names of two parts are those of the first and then those of the second. -/
@[simp] theorem names_append (first second : Bindings) :
    (first ++ second).names = first.names ++ second.names := by
  -- Names are read off the entries in order.
  simp [names]

/-- There is one value for every name. -/
theorem length_values (bindings : Bindings) : bindings.values.length = bindings.names.length := by
  -- Both are read off the same entries.
  simp [names, values]

end Bindings

namespace ConsPattern

/-- The arity of a cons pattern counts its names. -/
theorem length_binders (parts : ConsPattern) : parts.binders.length = parts.arity := by
  -- A tail counts only when it is a name.
  obtain ⟨heads, tail⟩ := parts
  cases tail <;> simp [binders, Tail.binders, arity]

/-- The names that are bound by heads and tail are theirs. -/
theorem names_of_bind? {parts : ConsPattern} {items : List Value} {bindings : Bindings}
    (bound : parts.bind? items = some bindings) : bindings.names = parts.binders := by
  -- Enough elements are there, or nothing would have been bound.
  unfold bind? at bound
  split at bound
  · cases bound
  · rename_i enough
    cases bound
    -- No head is lost in the pairing, since there are at least as many elements.
    have heads : (parts.heads.zip items).map Prod.fst = parts.heads :=
      List.map_fst_zip (Nat.le_of_not_lt enough)
    have tail : (parts.tail.bind (items.drop parts.heads.length)).names = parts.tail.binders := by
      cases parts.tail <;> rfl
    rw [Bindings.names_append, tail, Bindings.names, heads, binders]

end ConsPattern

namespace Slot

/-- The arity of a slot counts its names. -/
theorem length_binders (slot : Slot) : slot.binders.length = slot.arity := by
  -- Only a cons pattern has names of its own to count.
  cases slot with
  | cons parts => exact parts.length_binders
  | literal | binder | wildcard => rfl

/-- The arities of some slots add up to the number of their names. -/
theorem length_flatMap_binders (slots : List Slot) :
    (slots.flatMap binders).length = slots.foldr (fun slot total => slot.arity + total) 0 := by
  -- Names are added up slot by slot, just as arities are.
  induction slots with
  | nil => rfl
  | cons slot rest ih =>
    rw [List.flatMap_cons, List.length_append, length_binders, ih, List.foldr_cons]

/-- The names that a slot binds are its own. -/
theorem names_of_bind? {slot : Slot} {item : Value} {bindings : Bindings}
    (bound : slot.bind? item = some bindings) : bindings.names = slot.binders := by
  -- A literal that accepts binds nothing, and a cons pattern binds what it binds by itself.
  cases slot with
  | literal value =>
    obtain ⟨_, rfl⟩ : value.accepts item = true ∧ Bindings.empty = bindings := by
      simpa [bind?] using bound
    rfl
  | binder name => cases bound; rfl
  | wildcard => cases bound; rfl
  | cons parts =>
    obtain ⟨items, _, bound⟩ := Option.bind_eq_some_iff.mp bound
    exact ConsPattern.names_of_bind? bound

/-- Slots that fit a list are not more than its elements. -/
theorem length_le_of_fit {rule : LengthRule} {slots : List Slot} {length : Nat}
    (fits : fit rule slots length = true) : slots.length ≤ length := by
  -- Only a wildcard at the end lets a list be longer, and no list may be shorter.
  unfold fit at fits
  split at fits
  · simpa using fits
  · have same : slots.length = length := by simpa using fits
    omega

/-- Where every slot has an element, the names that are bound are those of all slots. -/
theorem names_of_bindAll? {slots : List Slot} {items : List Value} {bindings : Bindings}
    (enough : slots.length ≤ items.length) (bound : bindAll? slots items = some bindings) :
    bindings.names = slots.flatMap binders := by
  -- Elements that are left over at the end have no slot and bind nothing.
  induction slots generalizing items bindings with
  | nil => cases bound; rfl
  | cons slot rest ih =>
    cases items with
    | nil => simp at enough
    | cons item others =>
      simp only [bindAll?, Option.bind_eq_bind, Option.bind_eq_some_iff] at bound
      obtain ⟨first, own, behind, following, same⟩ := bound
      cases same
      rw [Bindings.names_append, names_of_bind? own, ih (by simpa using enough) following,
        List.flatMap_cons]

end Slot

namespace Pattern

/-- The arity of a pattern counts its names. -/
theorem length_binders (pattern : Pattern) : pattern.binders.length = pattern.arity := by
  -- A list adds up its slots, and forms without names have arity zero.
  cases pattern with
  | cons parts => exact parts.length_binders
  | list slots => exact Slot.length_flatMap_binders slots
  | wildcard | literal | typeTag => rfl

/-- Whatever the length rule, a match binds the names of its pattern from left to right. -/
theorem names_of_matchBy? {rule : LengthRule} {pattern : Pattern} {value : Value}
    {bindings : Bindings} (matched : pattern.matchBy? rule value = some bindings) :
    bindings.names = pattern.binders := by
  -- Only a cons pattern and a list bind anything when they accept.
  unfold matchBy? at matched
  split at matched
  · cases matched
    rfl
  · split at matched <;> cases matched
    rfl
  · exact ConsPattern.names_of_bind? matched
  · split at matched
    · rename_i fits
      exact Slot.names_of_bindAll? (Slot.length_le_of_fit fits) matched
    · cases matched
  · split at matched <;> cases matched
    rfl
  · cases matched

end Pattern

end Motif
