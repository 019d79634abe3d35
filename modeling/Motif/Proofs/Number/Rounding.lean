import Mathlib
import Motif.Number.Rounding

/-!
Rounding to binary64 gives the nearest number there is, and of two such the one that is even.

Magnitudes are measured in their least unit, so that all of them are whole numbers.
-/

namespace Motif

/-- Rounding to a whole number is off by half at most, and by exactly half only to an even one. -/
theorem roundEven_error (numerator : Nat) {denominator : Nat} (positive : 0 < denominator) :
    |(numerator / denominator : ℚ) - roundEven numerator denominator| ≤ 1 / 2 ∧
      (|(numerator / denominator : ℚ) - roundEven numerator denominator| = 1 / 2 →
        roundEven numerator denominator % 2 = 0) := by
  -- The quotient is a whole number and a part below one, which decides where to go.
  have size : (0 : ℚ) < denominator := by exact_mod_cast positive
  obtain ⟨part, remains⟩ : ∃ part : ℚ, part = (numerator % denominator : ℕ) / denominator :=
    ⟨_, rfl⟩
  have split : (numerator / denominator : ℚ) = (numerator / denominator : ℕ) + part := by
    have whole := Nat.div_add_mod numerator denominator
    rw [remains]
    field_simp
    exact_mod_cast whole.symm
  have nonneg : 0 ≤ part := by rw [remains]; positivity
  have below : part < 1 := by
    rw [remains, div_lt_one size]
    exact_mod_cast Nat.mod_lt numerator positive
  -- Twice the remainder tells on which side of the middle the quotient lies.
  have atMost : part ≤ 1 / 2 ↔ 2 * (numerator % denominator) ≤ denominator := by
    rw [remains, div_le_div_iff₀ size two_pos]
    norm_cast
    omega
  have atLeast : 1 / 2 ≤ part ↔ denominator ≤ 2 * (numerator % denominator) := by
    rw [remains, div_le_div_iff₀ two_pos size]
    norm_cast
    omega
  rw [split]
  simp only [roundEven]
  split_ifs with near
  · have half : part ≤ 1 / 2 := atMost.mpr (by omega)
    rw [add_sub_cancel_left, abs_of_nonneg nonneg]
    refine ⟨half, ?_⟩
    intro tie
    have := atLeast.mp tie.ge
    omega
  · have half : 1 / 2 ≤ part := atLeast.mpr (by omega)
    have off : ((numerator / denominator : ℕ) : ℚ) + part - (numerator / denominator + 1 : ℕ) =
        -(1 - part) := by push_cast; ring
    rw [off, abs_neg, abs_of_nonneg (by linarith)]
    refine ⟨by linarith, ?_⟩
    intro tie
    have := atMost.mp (by linarith)
    omega

namespace Magnitude

/-- The nearest magnitude to a number of units, which is the even one of two. -/
structure Nearest (target : ℚ) (magnitude : Magnitude) : Prop where
  closest : ∀ other : Magnitude, |target - magnitude.units| ≤ |target - other.units|
  even : ∀ other : Magnitude, other.units ≠ magnitude.units →
    |target - magnitude.units| = |target - other.units| → magnitude.significand % 2 = 0

/-- A significand for a number of units, at an exponent that leaves all of its bits in use. -/
structure Scaled (target : ℚ) (exponent significand : Nat) : Prop where
  error : |target - significand * 2 ^ exponent| ≤ 2 ^ exponent / 2
  even : |target - significand * 2 ^ exponent| = 2 ^ exponent / 2 → significand % 2 = 0
  below : target < 2 * leadingBit * 2 ^ exponent
  normal : exponent = 0 ∨ leadingBit * 2 ^ exponent ≤ target

/-- A magnitude is its significand times a power of two. -/
theorem units_eq (magnitude : Magnitude) :
    magnitude.units = magnitude.significand * 2 ^ magnitude.exponent :=
  Nat.shiftLeft_eq ..

/-- The leading bit is the one behind 52 others. -/
theorem leadingBit_eq : leadingBit = 2 ^ 52 := rfl

/-- A magnitude is a multiple of a power of two, or below all that need this exponent. -/
theorem units_on_grid (magnitude : Magnitude) (exponent : Nat) :
    (∃ count : Nat, magnitude.units = count * 2 ^ exponent) ∨
      exponent ≠ 0 ∧ magnitude.units < leadingBit * 2 ^ exponent := by
  rw [units_eq]
  -- With a smaller exponent a magnitude may be finer than the grid, else it lies on it.
  rcases Nat.lt_or_ge magnitude.exponent exponent with finer | coarser
  · right
    refine ⟨by omega, ?_⟩
    obtain ⟨steps, rfl⟩ := Nat.exists_eq_add_of_lt finer
    -- One step of the exponent makes up for the bit of the significand above the leading one.
    calc magnitude.significand * 2 ^ magnitude.exponent
        < 2 * leadingBit * 2 ^ magnitude.exponent :=
          Nat.mul_lt_mul_of_pos_right magnitude.significand_lt (by positivity)
      _ = leadingBit * 2 ^ (magnitude.exponent + 1) := by ring
      _ ≤ leadingBit * 2 ^ (magnitude.exponent + steps + 1) :=
          Nat.mul_le_mul_left _ (Nat.pow_le_pow_right two_pos (by omega))
  · left
    obtain ⟨steps, more⟩ := Nat.exists_eq_add_of_le coarser
    refine ⟨magnitude.significand * 2 ^ steps, ?_⟩
    rw [more, pow_add]
    ring

namespace Scaled

variable {target : ℚ} {exponent significand : Nat}

/-- Whole numbers of steps other than the selected one are off by half a step or more. -/
theorem half_le_error (scaled : Scaled target exponent significand) {count : Nat}
    (other : count ≠ significand) : 2 ^ exponent / 2 ≤ |target - count * 2 ^ exponent| := by
  have step : (0 : ℚ) < 2 ^ exponent := by positivity
  -- Two whole numbers are one apart at least, and the selected one is close.
  have apart : (1 : ℚ) ≤ |(significand : ℚ) - count| := by
    have distinct : (significand : ℤ) - count ≠ 0 := by omega
    exact_mod_cast Int.one_le_abs distinct
  have gap : (2 : ℚ) ^ exponent ≤ |(significand : ℚ) * 2 ^ exponent - count * 2 ^ exponent| := by
    rw [← sub_mul, abs_mul, abs_of_pos step]
    nlinarith
  have triangle := abs_sub_le ((significand : ℚ) * 2 ^ exponent) target (count * 2 ^ exponent)
  rw [abs_sub_comm ((significand : ℚ) * 2 ^ exponent) target] at triangle
  linarith [scaled.error]

/-- No magnitude is nearer than the selected significand, and as near only if that is even. -/
theorem closest (scaled : Scaled target exponent significand) (other : Magnitude) :
    |target - significand * 2 ^ exponent| ≤ |target - other.units| ∧
      ((other.units : ℚ) ≠ significand * 2 ^ exponent →
        |target - significand * 2 ^ exponent| = |target - other.units| →
          significand % 2 = 0) := by
  have onGrid (count : Nat) :
      |target - significand * 2 ^ exponent| ≤ |target - count * 2 ^ exponent| := by
    rcases eq_or_ne count significand with rfl | differs
    · exact le_refl _
    · exact scaled.error.trans (scaled.half_le_error differs)
  rcases other.units_on_grid exponent with ⟨count, same⟩ | ⟨raised, finer⟩
  · have units : (other.units : ℚ) = count * 2 ^ exponent := by exact_mod_cast same
    rw [units]
    refine ⟨onGrid count, ?_⟩
    intro differs tie
    have distinct : count ≠ significand := fun same => differs (by rw [same])
    exact scaled.even (le_antisymm scaled.error (tie ▸ scaled.half_le_error distinct))
  · -- A finer magnitude lies below the least one of this exponent, and that is on the grid.
    have below : (other.units : ℚ) < leadingBit * 2 ^ exponent := by exact_mod_cast finer
    have normal := scaled.normal.resolve_left raised
    have least := onGrid leadingBit
    have beyond : 0 ≤ target - other.units := by linarith
    rw [abs_of_nonneg (sub_nonneg.mpr normal)] at least
    have farther : |target - significand * 2 ^ exponent| < |target - other.units| := by
      rw [abs_of_nonneg beyond]
      linarith
    exact ⟨farther.le, fun _ tie => absurd tie farther.ne⟩

/-- The significand has one bit too many at most, and only when all others are zero. -/
theorem significand_le (scaled : Scaled target exponent significand) :
    significand ≤ 2 * leadingBit := by
  -- A larger one would be off by more than half a step, for the target lies below the bound.
  have step : (0 : ℚ) < 2 ^ exponent := by positivity
  by_contra large
  have above : (2 * leadingBit + 1 : ℚ) ≤ significand := by exact_mod_cast Nat.lt_of_not_le large
  have upper := (abs_le.mp scaled.error).1
  nlinarith [scaled.below]

/-- Except at the least exponent the significand uses its leading bit. -/
theorem leadingBit_le (scaled : Scaled target exponent significand) :
    exponent = 0 ∨ leadingBit ≤ significand := by
  -- A smaller one would be off by more than half a step, for the target lies above the bound.
  have step : (0 : ℚ) < 2 ^ exponent := by positivity
  refine scaled.normal.imp_right ?_
  intro normal
  by_contra small
  have below : (significand + 1 : ℚ) ≤ leadingBit := by exact_mod_cast Nat.lt_of_not_le small
  have lower := (abs_le.mp scaled.error).2
  nlinarith

end Scaled

/-- A quotient is scaled by the exponent that leaves 53 bits before its point. -/
theorem scaled_of_quotient (numerator : Nat) {denominator : Nat} (positive : 0 < denominator) :
    Scaled (numerator / denominator) ((numerator / denominator).log2 - 52)
      (roundEven numerator (denominator <<< ((numerator / denominator).log2 - 52))) := by
  generalize exponentIs : (numerator / denominator).log2 - 52 = exponent
  have size : (0 : ℚ) < denominator := by exact_mod_cast positive
  have step : (0 : ℚ) < 2 ^ exponent := by positivity
  have wide : 0 < denominator <<< exponent := by rw [Nat.shiftLeft_eq]; positivity
  have error := roundEven_error numerator wide
  -- Measured in steps the quotient is off by as many halves as it is measured in units.
  have scale (count : ℚ) :
      |(numerator / denominator : ℚ) - count * 2 ^ exponent| =
        |(numerator / (denominator <<< exponent : ℕ) : ℚ) - count| * 2 ^ exponent := by
    rw [← abs_of_pos step, ← abs_mul, abs_of_pos step, Nat.shiftLeft_eq]
    push_cast
    congr 1
    field_simp
  refine ⟨?_, ?_, ?_, ?_⟩
  · rw [scale]
    nlinarith [error.1]
  · intro tie
    rw [scale] at tie
    apply error.2
    have : (2 : ℚ) ^ exponent ≠ 0 := step.ne'
    field_simp at tie ⊢
    linarith
  · -- The whole part of the quotient is below the next power of two.
    have whole : numerator < denominator * 2 ^ (exponent + 53) := by
      have log := Nat.lt_log2_self (n := numerator / denominator)
      calc numerator < denominator * (numerator / denominator + 1) :=
            Nat.lt_mul_div_succ numerator positive
        _ ≤ denominator * 2 ^ ((numerator / denominator).log2 + 1) := Nat.mul_le_mul_left _ log
        _ ≤ denominator * 2 ^ (exponent + 53) :=
            Nat.mul_le_mul_left _ (Nat.pow_le_pow_right two_pos (by omega))
    rw [div_lt_iff₀ size]
    calc (numerator : ℚ) < (denominator * 2 ^ (exponent + 53) : ℕ) := by exact_mod_cast whole
      _ = 2 * leadingBit * 2 ^ exponent * denominator := by rw [leadingBit_eq]; push_cast; ring
  · rcases Nat.eq_zero_or_pos exponent with zero | raised
    · exact .inl zero
    · right
      -- The leading bit of the whole part is where the logarithm says.
      have some : numerator / denominator ≠ 0 := by
        intro none
        rw [none] at exponentIs
        simp at exponentIs
        omega
      have log : 2 ^ (exponent + 52) ≤ numerator / denominator := by
        have exact : exponent + 52 = (numerator / denominator).log2 := by omega
        rw [exact]
        exact Nat.log2_self_le some
      calc (leadingBit * 2 ^ exponent : ℚ) = (2 ^ (exponent + 52) : ℕ) := by
            rw [leadingBit_eq]; push_cast; ring
        _ ≤ (numerator / denominator : ℕ) := by exact_mod_cast log
        _ ≤ numerator / denominator := Nat.cast_div_le

/-- Half a step beyond the largest magnitude, which is where a tie would go to the even side. -/
def limit : ℚ := (2 * leadingBit - 1 / 2) * 2 ^ 2045

/-- Every magnitude lies below the limit. -/
theorem units_lt_limit (magnitude : Magnitude) : (magnitude.units : ℚ) < limit := by
  -- Neither the significand nor the exponent goes beyond that of the largest magnitude.
  have bits : (magnitude.significand + 1 : ℚ) ≤ 2 * leadingBit := by
    exact_mod_cast magnitude.significand_lt
  have power : (2 : ℚ) ^ magnitude.exponent ≤ 2 ^ 2045 :=
    pow_le_pow_right₀ one_le_two magnitude.exponent_le
  have positive : (0 : ℚ) < 2 ^ 2045 := by positivity
  rw [units_eq, limit]
  push_cast
  calc (magnitude.significand * 2 ^ magnitude.exponent : ℚ)
      ≤ magnitude.significand * 2 ^ 2045 := mul_le_mul_of_nonneg_left power (Nat.cast_nonneg _)
    _ < (2 * leadingBit - 1 / 2) * 2 ^ 2045 := mul_lt_mul_of_pos_right (by linarith) positive

/-- The magnitude of a selected significand, whose one bit too many goes to the exponent. -/
def ofScaled? (exponent significand : Nat) : Option Magnitude :=
  if significand = 2 * leadingBit then of? leadingBit (exponent + 1) else of? significand exponent

/-- A quotient is rounded to a significand first and then carried. -/
theorem nearest?_eq (numerator denominator : Nat) :
    nearest? numerator denominator =
      ofScaled? ((numerator / denominator).log2 - 52)
        (roundEven numerator (denominator <<< ((numerator / denominator).log2 - 52))) := rfl

/-- A magnitude that can be made has the parts it was asked for. -/
theorem of?_eq_some {significand exponent : Nat} {magnitude : Magnitude}
    (found : of? significand exponent = some magnitude) :
    magnitude.significand = significand ∧ magnitude.exponent = exponent := by
  -- Only when the parts are valid is there anything to compare.
  unfold of? at found
  split at found
  · cases found
    exact ⟨rfl, rfl⟩
  · cases found

/-- Below the last exponent everything is below the limit. -/
theorem Scaled.lt_limit_of_lt {target : ℚ} {exponent significand : Nat}
    (scaled : Scaled target exponent significand) (early : exponent < 2045) : target < limit := by
  -- Another step of the exponent is left, and that alone doubles the bound.
  have power : (2 : ℚ) ^ exponent ≤ 2 ^ 2044 := pow_le_pow_right₀ one_le_two (by omega)
  have positive : (0 : ℚ) < 2 ^ 2044 := by positivity
  have below := scaled.below
  rw [leadingBit_eq] at below
  rw [limit, leadingBit_eq, pow_succ 2 2044]
  generalize (2 : ℚ) ^ 2044 = half at power positive
  push_cast at below ⊢
  linarith

/-- At the last exponent a significand without a bit too many is below the limit. -/
theorem Scaled.lt_limit_of_last {target : ℚ} {significand : Nat}
    (scaled : Scaled target 2045 significand) (fits : significand < 2 * leadingBit) :
    target < limit := by
  obtain ⟨error, even, -, -⟩ := scaled
  have positive : (0 : ℚ) < 2 ^ 2045 := by positivity
  rw [limit]
  generalize (2 : ℚ) ^ 2045 = step at error even positive
  have bits : (significand + 1 : ℚ) ≤ 2 * leadingBit := by exact_mod_cast fits
  have upper := (abs_le.mp error).2
  by_contra beyond
  -- The largest significand is odd, so a tie behind it would have gone to infinity.
  have largest : (significand + 1 : ℚ) = 2 * leadingBit := by nlinarith
  have odd : significand % 2 = 1 := by
    have exact : significand + 1 = 2 * leadingBit := by exact_mod_cast largest
    omega
  have tie : |target - significand * step| = step / 2 := by
    refine le_antisymm error (le_trans ?_ (le_abs_self _))
    rw [← largest] at beyond
    linarith
  have := even tie
  omega

/-- A magnitude that was found is the nearest one, and no infinity is nearer. -/
theorem Scaled.nearest_of_some {target : ℚ} {exponent significand : Nat} {magnitude : Magnitude}
    (scaled : Scaled target exponent significand)
    (found : ofScaled? exponent significand = some magnitude) :
    magnitude.Nearest target ∧ target < limit := by
  unfold ofScaled? at found
  split_ifs at found with carried
  · obtain ⟨bits, raised⟩ := of?_eq_some found
    -- The bit too many is the only one that is set, and in its new place it is even.
    have units : (magnitude.units : ℚ) = significand * 2 ^ exponent := by
      rw [units_eq, bits, raised, carried]
      push_cast
      ring
    have even : magnitude.significand % 2 = 0 := by rw [bits]; rfl
    refine ⟨⟨?_, fun _ _ _ => even⟩, scaled.lt_limit_of_lt ?_⟩
    · intro other
      rw [units]
      exact (scaled.closest other).1
    · have := magnitude.exponent_le
      omega
  · obtain ⟨bits, same⟩ := of?_eq_some found
    have units : (magnitude.units : ℚ) = significand * 2 ^ exponent := by
      rw [units_eq, bits, same]
      push_cast
      rfl
    refine ⟨⟨?_, ?_⟩, ?_⟩
    · intro other
      rw [units]
      exact (scaled.closest other).1
    · intro other differs tie
      rw [units] at tie
      rw [bits]
      refine (scaled.closest other).2 ?_ tie
      rw [← units]
      exact_mod_cast differs
    · rcases Nat.lt_or_ge exponent 2045 with early | last
      · exact scaled.lt_limit_of_lt early
      · obtain rfl : exponent = 2045 := by
          have := magnitude.exponent_le
          omega
        exact scaled.lt_limit_of_last (bits ▸ magnitude.significand_lt)

/-- A magnitude is missing only at the limit and beyond it. -/
theorem Scaled.limit_le_of_none {target : ℚ} {exponent significand : Nat}
    (scaled : Scaled target exponent significand)
    (missing : ofScaled? exponent significand = none) : limit ≤ target := by
  -- A valid significand and exponent would have made a magnitude, so one is not valid.
  have positive : (0 : ℚ) < 2 ^ 2045 := by positivity
  unfold ofScaled? at missing
  split_ifs at missing with carried
  · -- The significand is one that would have to be carried into an exponent too large.
    have late : 2045 ≤ exponent := by
      by_contra early
      have valid : leadingBit < 2 * leadingBit ∧ exponent + 1 ≤ 2045 ∧
          (exponent + 1 = 0 ∨ leadingBit ≤ leadingBit) := ⟨by decide, by omega, .inr le_rfl⟩
      simp [of?, valid] at missing
    have power : (2 : ℚ) ^ 2045 ≤ 2 ^ exponent := pow_le_pow_right₀ one_le_two late
    have lower := (abs_le.mp scaled.error).1
    rw [carried, leadingBit_eq] at lower
    rw [limit, leadingBit_eq]
    generalize (2 : ℚ) ^ 2045 = step at power positive
    push_cast at lower ⊢
    linarith
  · -- The significand is fine, so the exponent is too large even with the leading bit alone.
    have late : 2046 ≤ exponent := by
      by_contra early
      have valid : significand < 2 * leadingBit ∧ exponent ≤ 2045 ∧
          (exponent = 0 ∨ leadingBit ≤ significand) :=
        ⟨lt_of_le_of_ne scaled.significand_le carried, by omega, scaled.leadingBit_le⟩
      simp [of?, valid] at missing
    have power : (2 : ℚ) ^ 2046 ≤ 2 ^ exponent := pow_le_pow_right₀ one_le_two late
    have lower := scaled.normal.resolve_left (by omega)
    rw [leadingBit_eq] at lower
    rw [pow_succ] at power
    rw [limit, leadingBit_eq]
    generalize (2 : ℚ) ^ 2045 = step at power positive
    push_cast at lower ⊢
    linarith

/-- Rounding a quotient finds the nearest magnitude, below the limit and only there. -/
theorem nearest?_spec (numerator : Nat) {denominator : Nat} (positive : 0 < denominator) :
    (∃ magnitude, nearest? numerator denominator = some magnitude ∧
        magnitude.Nearest (numerator / denominator) ∧ (numerator / denominator : ℚ) < limit) ∨
      nearest? numerator denominator = none ∧ limit ≤ (numerator / denominator : ℚ) := by
  -- The quotient is scaled, so what was found and what is missing are known for it.
  have scaled := scaled_of_quotient numerator positive
  rw [nearest?_eq]
  cases found : ofScaled? ((numerator / denominator).log2 - 52)
      (roundEven numerator (denominator <<< ((numerator / denominator).log2 - 52))) with
  | some magnitude => exact .inl ⟨magnitude, rfl, scaled.nearest_of_some found⟩
  | none => exact .inr ⟨rfl, scaled.limit_le_of_none found⟩

end Magnitude

end Motif
