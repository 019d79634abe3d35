import Motif.Proofs.Number.Casting

/-!
Equality of numbers is exact, and it is an equivalence on all numbers but `nan`.

In whichever form two numbers are held, they are equal when they are one rational or one infinity.
-/

namespace Motif.Number

variable {first second third : Number}

/-- Whatever two numbers are, they are it in either order. -/
theorem Same.symm (same : first.Same second) : second.Same first := by
  -- A rational and an infinity are said of both sides alike.
  cases same with
  | finite own other => exact .finite other own
  | infinite negative => exact .infinite negative

/-- What two numbers are is what the second and the third are. -/
theorem Same.trans (same : first.Same second) (next : second.Same third) : first.Same third := by
  cases same with
  | finite own other =>
    -- An infinity is no rational, so the second step compares rationals too.
    have value := next.value?_eq
    rw [other] at value
    exact .finite own value.symm
  | infinite negative =>
    cases next with
    | finite own other => cases own
    | infinite negative => exact .infinite negative

/-- Only `nan` is neither a rational nor an infinity. -/
theorem same_self_iff {number : Number} : number.Same number ↔ number ≠ float .nan := by
  -- All other numbers are the rational or the infinity that they are.
  constructor
  · rintro same rfl
    cases same with
    | finite own other => cases own
  · intro some
    cases number with
    | int whole => exact .finite rfl rfl
    | float number =>
      cases number with
      | nan => exact absurd rfl some
      | infinity negative => exact .infinite negative
      | finite negative magnitude => exact .finite rfl rfl

/-- Numbers are compared in either order. -/
theorem numericEq_comm (left right : Number) : left.numericEq right = right.numericEq left := by
  -- What equality means does not depend on the order.
  rw [Bool.eq_iff_iff, numericEq_iff, numericEq_iff]
  exact ⟨Same.symm, Same.symm⟩

/-- Equal numbers are equal to the same numbers. -/
theorem Same.numericEq_eq (same : first.Same second) (other : Number) :
    other.numericEq first = other.numericEq second := by
  -- The other number is compared with one, and from there it is a step to the other.
  rw [Bool.eq_iff_iff, numericEq_iff, numericEq_iff]
  exact ⟨fun own => own.trans same, fun own => own.trans same.symm⟩

/-- An integer equals a floating-point number when the number can be cast to it exactly. -/
theorem numericEq_int_float (whole : Int64) (number : Binary64) :
    (int whole).numericEq (float number) = (number.checkedCast? == some whole) := by
  -- Both sides say that the number has the value of the integer.
  rw [Bool.eq_iff_iff, beq_iff_eq, Binary64.checkedCast?_eq_some_iff, numericEq_comm]
  exact numericEq_int_iff

/--
Numbers are compared exactly, whichever way they are held.

An integer equals a floating-point number when that is finite and this very integer, which is when
the number can be cast to it exactly. Equality is symmetric and transitive, and only `nan` differs
from itself. So no number between two others lets them be taken for equal.
-/
theorem numericEq_is_exact_and_transitive :
    (∀ (whole : Int64) (number : Binary64),
      ((int whole).numericEq (float number) = true ↔
        number.isFinite = true ∧ number.value? = some (whole.toInt : ℚ)) ∧
      (int whole).numericEq (float number) = (number.checkedCast? == some whole)) ∧
    (∀ left right : Number, left.numericEq right = right.numericEq left) ∧
    (∀ first second third : Number, first.numericEq second = true →
      second.numericEq third = true → first.numericEq third = true) ∧
    (∀ number : Number, number.numericEq number = true ↔ number ≠ float .nan) ∧
    (∀ (left right : Int64) (number : Binary64), (int left).numericEq (float number) = true →
      (float number).numericEq (int right) = true → left = right) ∧
    ∀ (left right : Binary64) (whole : Int64), (float left).numericEq (int whole) = true →
      (int whole).numericEq (float right) = true →
        (left == right) = true ∧ left.value? = right.value? := by
  -- Equality is taken for what it means, and two steps of that are joined to one.
  have chain {first second third : Number} (before : first.numericEq second = true)
      (behind : second.numericEq third = true) : first.Same third :=
    (numericEq_iff.mp before).trans (numericEq_iff.mp behind)
  refine ⟨?_, numericEq_comm, ?_, ?_, ?_, ?_⟩
  · intro whole number
    refine ⟨?_, numericEq_int_float whole number⟩
    rw [numericEq_comm, numericEq_int_iff]
    refine ⟨fun own => ⟨?_, own⟩, And.right⟩
    -- Only finite numbers have a value.
    obtain ⟨negative, magnitude, rfl⟩ := Binary64.finite_of_value? own
    rfl
  · intro first second third before behind
    exact numericEq_iff.mpr (chain before behind)
  · intro number
    rw [numericEq_iff, same_self_iff]
  · intro left right number before behind
    have same : (left.toInt : ℚ) = right.toInt := Option.some.inj (chain before behind).value?_eq
    exact Int64.toInt_inj.mp (by exact_mod_cast same)
  · intro left right whole before behind
    have same := chain before behind
    exact ⟨numericEq_iff.mpr same, same.value?_eq⟩

/-- Both zeros are equal through the integer between them, and the least integer to its cast. -/
theorem numericEq_is_exact_and_transitive_of_zeros :
    let zero : Binary64 := .ofInt 0
    let negative : Binary64 := .ofQuotient true 0 1
    let least : Binary64 := .ofInt (-2 ^ 63)
    (float zero).numericEq (int 0) = true ∧ (int 0).numericEq (float negative) = true ∧
      (float zero).numericEq (float negative) = true ∧ (zero == negative) = true ∧
      (int Int64.minValue).numericEq (float least) = true ∧
      (float least).numericEq (int (Int64.ofInt (-2 ^ 63))) = true ∧
      Int64.minValue = Int64.ofInt (-2 ^ 63) := by
  intro zero negative least
  have before : (float zero).numericEq (int 0) = true := by decide +kernel
  have behind : (int 0).numericEq (float negative) = true := by decide +kernel
  have up : (int Int64.minValue).numericEq (float least) = true := by decide +kernel
  -- The chains go through an integer in one case and through a number in the other.
  obtain ⟨-, -, transitive, -, integers, floats⟩ := numericEq_is_exact_and_transitive
  have down : (float least).numericEq (int (Int64.ofInt (-2 ^ 63))) = true := by decide +kernel
  exact ⟨before, behind, transitive _ _ _ before behind, (floats _ _ _ before behind).1, up, down,
    integers _ _ _ up down⟩

end Motif.Number
