import Motif.Proofs.Number.Value

/-!
Casts to integers of 64 bits.

A cast always gives an integer, so what it gives is tested beforehand: a finite number without a
fraction, from `-2 ^ 63` on and below `2 ^ 63`, is cast to the integer that it is.
-/

namespace Motif.Binary64

/-- What is left of a number without its whole part, rounded as every result is. -/
def fraction : Binary64 → Binary64
  | finite negative magnitude =>
    let rest := magnitude.units % unitsPerOne
    -- If nothing is left, then it is a zero without a sign.
    ofQuotient (negative && rest != 0) rest unitsPerOne
  -- Taking infinity from itself gives no number.
  | infinity _ | nan => nan

/-- Whether a number is at most another, which `nan` never is. -/
def atMost : Binary64 → Binary64 → Bool
  | nan, _ | _, nan => false
  | infinity true, _ | _, infinity false => true
  | left, right => left.units?.any fun own => right.units?.any fun other => own ≤ other

/-- Whether a number lies below another, which `nan` never does. -/
def below (left right : Binary64) : Bool :=
  left.atMost right && !right.atMost left

/-- The integer that a number is cast to: its whole part, or the nearest one of 64 bits. -/
def toInt64 : Binary64 → Int64
  | nan => 0
  | infinity negative => if negative then Int64.minValue else Int64.maxValue
  | finite negative magnitude =>
    -- The fraction is cut off from the magnitude, so this goes toward zero.
    let size : Int := (magnitude.units / unitsPerOne : Nat)
    let whole := if negative then -size else size
    if whole < Int64.minValue.toInt then Int64.minValue
    else if Int64.maxValue.toInt < whole then Int64.maxValue
    else Int64.ofInt whole

/-- Whether a number is finite, has no fraction and lies in the half-open range of the cast. -/
def castsExactly (number : Binary64) : Bool :=
  -- The largest integer of 64 bits is no binary64 number, but the one behind it is.
  number.isFinite && number.fraction == ofInt 0 && (ofInt (-2 ^ 63)).atMost number &&
    number.below (ofInt (2 ^ 63))

/-- The integer that a number is cast to, if the cast is exact. -/
def checkedCast? (number : Binary64) : Option Int64 :=
  if number.castsExactly then some number.toInt64 else none

/-- Zero has no units. -/
theorem units?_zero : (ofInt 0).units? = some 0 := by decide +kernel

/-- The lower bound of the range is one of the numbers. -/
theorem units?_least : (ofInt (-2 ^ 63)).units? = some (-2 ^ 63 * (unitsPerOne : ℤ)) := by
  decide +kernel

/-- The bound behind the range is one of the numbers too. -/
theorem units?_limit : (ofInt (2 ^ 63)).units? = some (2 ^ 63 * (unitsPerOne : ℤ)) := by
  decide +kernel

/-- Finite numbers are compared by their units. -/
theorem atMost_iff {left right : Binary64} {own other : ℤ} (first : left.units? = some own)
    (second : right.units? = some other) : left.atMost right = true ↔ own ≤ other := by
  -- Numbers that have units are neither `nan` nor infinite, so the last case decides.
  cases left <;> cases right <;> simp_all [atMost, units?]

/-- Below is at most but not at least. -/
theorem below_iff {left right : Binary64} {own other : ℤ} (first : left.units? = some own)
    (second : right.units? = some other) : left.below right = true ↔ own < other := by
  -- What does not lie above and is not reached from above lies below.
  rw [below, Bool.and_eq_true, Bool.not_eq_true', Bool.eq_false_iff, ne_eq, atMost_iff first second,
    atMost_iff second first]
  omega

/-- A one has units, counted as whole numbers. -/
theorem zero_lt_unitsPerOne : 0 < unitsPerOne := by
  -- Among rationals it is known already.
  exact_mod_cast unitsPerOne_pos

/-- A number of whole units is rounded to zero only when there are none. -/
theorem ofQuotient_beq_zero_iff (negative : Bool) (count : Nat) :
    (ofQuotient negative count unitsPerOne == ofInt 0) = true ↔ count = 0 := by
  have one := unitsPerOne_pos
  have zero : (ofInt 0).value? = some 0 := by simp [value?, units?_zero]
  constructor
  · intro vanished
    -- The number is zero and nearest to the quotient, so no number lies nearer than zero.
    have nearest := ofQuotient_nearest negative count zero_lt_unitsPerOne
    have value : (ofQuotient negative count unitsPerOne).value? = some 0 := by
      rcases equal_iff.mp vanished with ⟨value, own, other⟩ | ⟨sign, -, other⟩
      · rw [own, ← other, zero]
      · rw [other] at zero
        cases zero
    generalize ofQuotient negative count unitsPerOne = rounded at nearest value
    cases nearest with
    | infinity large => cases value
    | finite exact small closest even =>
      obtain rfl := Option.some.inj (exact.symm.trans value)
      -- A single unit is a number too, and it lies nearer than zero does.
      have unit := closest (.finite negative ⟨1, 0, by decide, by decide, .inl rfl⟩) _
        (value?_finite ..)
      rw [signed_sub, sub_zero, abs_signed, ← sub_div, abs_div, abs_div,
        div_le_div_iff_of_pos_right (abs_pos.mpr one.ne')] at unit
      by_contra some
      have least : (1 : ℚ) ≤ count := by exact_mod_cast Nat.one_le_iff_ne_zero.mpr some
      have single : ((Magnitude.mk 1 0 (by decide) (by decide) (.inl rfl)).units : ℚ) = 1 := rfl
      rw [single, abs_of_nonneg (by linarith), abs_of_nonneg (by linarith)] at unit
      linarith
  · rintro rfl
    cases negative <;> decide +kernel

/-- Nothing equals `nan`. -/
theorem nan_beq (number : Binary64) : (nan == number) = false := by
  -- Equality asks for two infinities or two finite numbers.
  cases number <;> rfl

/-- Exactly the whole numbers have no fraction. -/
theorem fraction_beq_zero_iff {number : Binary64} :
    (number.fraction == ofInt 0) = true ↔
      ∃ whole : ℤ, number.units? = some (whole * unitsPerOne) := by
  -- Only of a finite number something can be left, and that is what its units leave.
  cases number with
  | nan => simp [fraction, nan_beq, units?]
  | infinity negative => simp [fraction, nan_beq, units?]
  | finite negative magnitude =>
    rw [fraction, ofQuotient_beq_zero_iff, ← Nat.dvd_iff_mod_eq_zero, ← Int.natCast_dvd_natCast]
    cases negative with
    | false => simp [units?, dvd_iff_exists_eq_mul_left]
    | true =>
      rw [← dvd_neg, dvd_iff_exists_eq_mul_left]
      simp [units?]

/-- A number is an integer when it has the units of that many ones. -/
theorem value?_eq_some_intCast_iff {number : Binary64} {whole : ℤ} :
    number.value? = some (whole : ℚ) ↔ number.units? = some (whole * unitsPerOne) := by
  -- A value is the quotient of units and those of a one, which are not zero.
  rw [value?, Option.map_eq_some_iff]
  constructor
  · rintro ⟨units, own, same⟩
    rw [own, Option.some_inj]
    rw [div_eq_iff unitsPerOne_pos.ne'] at same
    exact_mod_cast same
  · intro own
    refine ⟨_, own, ?_⟩
    push_cast
    exact mul_div_cancel_right₀ _ unitsPerOne_pos.ne'

/-- The tests let whole numbers of 64 bits pass and nothing else. -/
theorem castsExactly_iff {number : Binary64} :
    number.castsExactly = true ↔
      ∃ whole : ℤ, number.units? = some (whole * unitsPerOne) ∧ -2 ^ 63 ≤ whole ∧
        whole < 2 ^ 63 := by
  have one : (0 : ℤ) < unitsPerOne := by exact_mod_cast zero_lt_unitsPerOne
  -- The bounds of the range are whole numbers too, so units are compared as ones are.
  have range {whole : ℤ} (units : number.units? = some (whole * unitsPerOne)) :
      ((ofInt (-2 ^ 63)).atMost number = true ↔ -2 ^ 63 ≤ whole) ∧
        (number.below (ofInt (2 ^ 63)) = true ↔ whole < 2 ^ 63) := by
    rw [atMost_iff units?_least units, below_iff units units?_limit,
      mul_le_mul_iff_of_pos_right one, mul_lt_mul_iff_of_pos_right one]
    exact ⟨Iff.rfl, Iff.rfl⟩
  -- Each of the four tests says one part of the right side.
  simp only [castsExactly, Bool.and_eq_true, and_assoc]
  constructor
  · rintro ⟨finite, fraction, least, limit⟩
    obtain ⟨whole, units⟩ := fraction_beq_zero_iff.mp fraction
    exact ⟨whole, units, (range units).1.mp least, (range units).2.mp limit⟩
  · rintro ⟨whole, units, least, limit⟩
    exact ⟨Option.isSome_of_mem units, fraction_beq_zero_iff.mpr ⟨whole, units⟩,
      (range units).1.mpr least, (range units).2.mpr limit⟩

/-- Within the range of 64 bits a whole number is cast to itself. -/
theorem toInt64_of_whole {number : Binary64} {whole : ℤ}
    (units : number.units? = some (whole * unitsPerOne)) (least : -2 ^ 63 ≤ whole)
    (limit : whole < 2 ^ 63) : number.toInt64 = Int64.ofInt whole := by
  have one : (unitsPerOne : ℤ) ≠ 0 := by exact_mod_cast zero_lt_unitsPerOne.ne'
  -- Both bounds are kept, so the cast has nothing to put in place of the integer.
  have above : ¬ whole < Int64.minValue.toInt := not_lt.mpr least
  have within : ¬ Int64.maxValue.toInt < whole := not_lt.mpr (Int.le_sub_one_of_lt limit)
  cases number with
  | nan => cases units
  | infinity negative => cases units
  | finite negative magnitude =>
    have cut : (if negative then -((magnitude.units / unitsPerOne : ℕ) : ℤ)
        else (magnitude.units / unitsPerOne : ℕ)) = whole := by
      have same := Option.some.inj units
      cases negative with
      | false =>
        have size : (magnitude.units : ℤ) = whole * unitsPerOne := same
        rw [if_neg Bool.false_ne_true, Int.natCast_ediv, size, Int.mul_ediv_cancel _ one]
      | true =>
        have size : (magnitude.units : ℤ) = -whole * unitsPerOne := by
          rw [neg_mul, ← same]
          exact (neg_neg _).symm
        rw [if_pos rfl, Int.natCast_ediv, size, Int.mul_ediv_cancel _ one, neg_neg]
    simp only [toInt64, cut, above, within, if_false]

/-- A cast that passed the tests gives the integer that a number is. -/
theorem checkedCast?_eq_some_iff {number : Binary64} {whole : Int64} :
    number.checkedCast? = some whole ↔ number.value? = some (whole.toInt : ℚ) := by
  -- The tests say which integer a number is, and that one the cast gives.
  rw [checkedCast?, Option.ite_none_right_eq_some, castsExactly_iff, Option.some_inj,
    value?_eq_some_intCast_iff]
  constructor
  · rintro ⟨⟨own, units, least, limit⟩, cast⟩
    rw [toInt64_of_whole units least limit] at cast
    rw [← cast, Int64.toInt_ofInt_of_le least limit, units]
  · intro units
    have least : -2 ^ 63 ≤ whole.toInt := whole.le_toInt
    have limit : whole.toInt < 2 ^ 63 := whole.toInt_lt
    refine ⟨⟨whole.toInt, units, least, limit⟩, ?_⟩
    rw [toInt64_of_whole units least limit, Int64.ofInt_toInt]

end Motif.Binary64
