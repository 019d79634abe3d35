import Mathlib

/-! Computations that go through a list item by item and stop at the first error. -/

namespace Motif

variable {ε α β : Type} {f : α → Except ε β} {items : List α} {results : List β}

/-- Such a computation succeeds with a result for each item, in the place of the item. -/
theorem mapM_eq_ok_iff :
    items.mapM f = .ok results ↔
      List.Forall₂ (fun item result => f item = .ok result) items results := by
  induction items generalizing results with
  | nil => cases results <;> simp [Pure.pure, Except.pure]
  | cons item rest ih =>
    rw [List.mapM_cons, List.forall₂_cons_left_iff]
    -- An error of the front item ends everything, and so does one behind it.
    cases f item with
    | error error => simp [Bind.bind, Except.bind]
    | ok own =>
      cases others : rest.mapM f with
      | error error => simp [Bind.bind, Except.bind, ← ih, others]
      | ok behind =>
        simp [Bind.bind, Except.bind, Pure.pure, Except.pure, ← ih, others, eq_comm]

/-- In lists that go together, what stands in one has a partner in the same place of the other. -/
theorem exists_partner {R : α → β → Prop} (each : List.Forall₂ R items results) {index : Nat}
    {result : β} (found : results[index]? = some result) :
    ∃ item, items[index]? = some item ∧ R item result := by
  -- Both lists are equally long, so a place in one is a place in the other.
  obtain ⟨inside, rfl⟩ := List.getElem?_eq_some_iff.mp found
  have within : index < items.length := each.length_eq ▸ inside
  exact ⟨items[index], List.getElem?_eq_getElem within, each.get within inside⟩

/-- Every result is that of the item in its place. -/
theorem exists_item_of_mapM (done : items.mapM f = .ok results) {index : Nat} {result : β}
    (found : results[index]? = some result) :
    ∃ item, items[index]? = some item ∧ f item = .ok result :=
  exists_partner (mapM_eq_ok_iff.mp done) found

/-- Every item has its result in its place. -/
theorem exists_result_of_mapM (done : items.mapM f = .ok results) {index : Nat} {item : α}
    (found : items[index]? = some item) :
    ∃ result, results[index]? = some result ∧ f item = .ok result :=
  exists_partner (mapM_eq_ok_iff.mp done).flip found

/-- The error is that of the first item that fails. -/
theorem mapM_eq_error_of_first {index : Nat} {item : α} {error : ε}
    (found : items[index]? = some item) (failed : f item = .error error)
    (first : ∀ place < index, ∀ earlier, items[place]? = some earlier →
      ∃ result, f earlier = .ok result) :
    items.mapM f = .error error := by
  induction items generalizing index with
  | nil => simp at found
  | cons front rest ih =>
    rw [List.mapM_cons]
    cases index with
    | zero =>
      obtain rfl : front = item := by simpa using found
      rw [failed]
      rfl
    | succ index =>
      -- The front item does not fail, so the failure is left to the items behind it.
      obtain ⟨own, done⟩ := first 0 (Nat.succ_pos index) front rfl
      have behind : rest.mapM f = .error error := by
        apply ih (by simpa using found)
        intro place before earlier stands
        exact first (place + 1) (Nat.succ_lt_succ before) earlier (by simpa using stands)
      rw [done, behind]
      rfl

/-- Where no item fails, there are results. -/
theorem exists_mapM_eq_ok (each : ∀ item ∈ items, ∃ result, f item = .ok result) :
    ∃ results, items.mapM f = .ok results := by
  induction items with
  | nil => exact ⟨[], rfl⟩
  | cons front rest ih =>
    obtain ⟨own, done⟩ := each front (by simp)
    obtain ⟨others, behind⟩ := ih fun item member => each item (by simp [member])
    refine ⟨own :: others, ?_⟩
    rw [List.mapM_cons, done, behind]
    rfl

end Motif
