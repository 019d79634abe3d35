import Motif.Proofs.Number.Numeral
import Motif.Proofs.Number.Rounding

/-!
The rationals that numbers are and that numerals write.

A numeral stands for the rational that it writes, or for the binary64 number nearest to it.
-/

namespace Motif

/-- The rational that a numeral writes. -/
def Numeral.value (numeral : Numeral) : ℚ :=
  numeral.unscaled / 10 ^ numeral.scale

/-- A numeral without a point is the integer that its digits write. -/
theorem Numeral.value_of_plain {numeral : Numeral} (plain : numeral.fraction = none) :
    numeral.value = numeral.unscaled := by
  -- There is no scale to divide by.
  simp [value, scale, plain]

namespace Binary64

/-- The rational that a number is, when it is finite. -/
def value? (number : Binary64) : Option ℚ :=
  number.units?.map fun units : ℤ => (units : ℚ) / unitsPerOne

/-- From here on rounding leads to infinity: half a step beyond the largest finite number. -/
def overflow : ℚ := 2 ^ 1024 - 2 ^ 970

/-- Rounding leads to infinity far from zero only. -/
theorem overflow_pos : 0 < overflow :=
  sub_pos.mpr (pow_lt_pow_right₀ one_lt_two (by norm_num))

/-- The number that a rational is rounded to: the nearest one, and of two the even one. -/
inductive Nearest (target : ℚ) : Binary64 → Prop
  | infinity (large : overflow ≤ |target|) : Nearest target (.infinity (decide (target < 0)))
  | finite {negative : Bool} {magnitude : Magnitude} {own : ℚ}
      (exact : value? (.finite negative magnitude) = some own) (small : |target| < overflow)
      (closest : ∀ other value, value? other = some value → |target - own| ≤ |target - value|)
      (even : ∀ other value, value? other = some value → value ≠ own →
        |target - own| = |target - value| → magnitude.significand % 2 = 0) :
      Nearest target (.finite negative magnitude)

/-- A shifted bit is a power of two among rationals too. -/
theorem cast_one_shiftLeft (count : Nat) : ((1 <<< count : Nat) : ℚ) = 2 ^ count := by
  -- The power is known among whole numbers.
  rw [Nat.one_shiftLeft]
  push_cast
  rfl

/-- A one has as many units as the least of them needs halvings. -/
theorem unitsPerOne_eq : (unitsPerOne : ℚ) = 2 ^ 1074 :=
  cast_one_shiftLeft 1074

/-- A one has units. -/
theorem unitsPerOne_pos : (0 : ℚ) < unitsPerOne := by
  -- Powers of two are positive.
  rw [unitsPerOne_eq]
  positivity

/-- The limit of magnitudes is where rounding begins to overflow. -/
theorem limit_eq : Magnitude.limit = overflow * unitsPerOne := by
  -- The powers are so large that they are split by hand and then only named.
  have bound : (2 : ℚ) ^ 1024 = 2 ^ 54 * 2 ^ 970 := pow_add 2 54 970
  have last : (2 : ℚ) ^ 2045 = 2 ^ 970 * 2 ^ 1074 * 2 :=
    (pow_succ 2 2044).trans (congrArg (· * 2) (pow_add 2 970 1074))
  rw [Magnitude.limit, overflow, unitsPerOne_eq, Magnitude.leadingBit_eq, bound, last]
  push_cast
  generalize (2 : ℚ) ^ 970 = step
  generalize (2 : ℚ) ^ 1074 = units
  ring

/-- A number with a sign in front, or without. -/
def signed (negative : Bool) (size : ℚ) : ℚ :=
  if negative then -size else size

/-- A sign does not change the size. -/
@[simp] theorem abs_signed (negative : Bool) (size : ℚ) : |signed negative size| = |size| := by
  cases negative <;> simp [signed]

/-- A sign in front of both does not change a distance. -/
theorem signed_sub (negative : Bool) (left right : ℚ) :
    |signed negative left - signed negative right| = |left - right| := by
  -- With a minus sign before both the two have changed places.
  cases negative
  · rfl
  · rw [signed, signed, if_pos rfl, if_pos rfl, neg_sub_neg, abs_sub_comm]

/-- The value of a finite number is its magnitude in ones, with its sign. -/
theorem value?_finite (negative : Bool) (magnitude : Magnitude) :
    value? (.finite negative magnitude) =
      some (signed negative (magnitude.units / unitsPerOne)) := by
  -- A minus sign before the units is one before the quotient.
  cases negative with
  | false => simp [value?, units?, signed]
  | true => simp [value?, units?, signed, neg_div]

/-- Only a finite number has a value. -/
theorem finite_of_value? {number : Binary64} {value : ℚ} (own : number.value? = some value) :
    ∃ negative magnitude, number = finite negative magnitude := by
  -- The two other kinds have no units.
  cases number with
  | nan => cases own
  | infinity negative => cases own
  | finite negative magnitude => exact ⟨negative, magnitude, rfl⟩

/-- The size of any value is that of some magnitude. -/
theorem exists_units_of_value? {number : Binary64} {value : ℚ} (own : number.value? = some value) :
    ∃ magnitude : Magnitude, |value| = magnitude.units / unitsPerOne := by
  -- The value is a quotient of units with a sign, and the sign is given up.
  obtain ⟨negative, magnitude, rfl⟩ := finite_of_value? own
  rw [value?_finite] at own
  obtain rfl := Option.some.inj own
  have nonneg : (0 : ℚ) ≤ magnitude.units / unitsPerOne :=
    div_nonneg (Nat.cast_nonneg _) unitsPerOne_pos.le
  exact ⟨magnitude, by rw [abs_signed, abs_of_nonneg nonneg]⟩

/-- Every finite number lies where rounding does not lead to infinity. -/
theorem abs_value_lt_overflow {number : Binary64} {value : ℚ} (own : number.value? = some value) :
    |value| < overflow := by
  -- Its size is that of a magnitude, all of which lie below the limit.
  obtain ⟨magnitude, size⟩ := exists_units_of_value? own
  rw [size, div_lt_iff₀ unitsPerOne_pos, ← limit_eq]
  exact magnitude.units_lt_limit

/-- Giving up its sign brings a value no farther from a number that has none. -/
theorem abs_sub_abs_le_signed {size : ℚ} (nonneg : 0 ≤ size) (negative : Bool) (value : ℚ) :
    |size - (|value|)| ≤ |signed negative size - value| := by
  -- Sizes lie no farther apart than what they are sizes of.
  have lost := abs_abs_sub_abs_le (signed negative size) value
  rwa [abs_signed, abs_of_nonneg nonneg] at lost

/-- The number of the other sign is as near as its twin only if both of them are zero. -/
theorem eq_signed_of_tie {negative : Bool} {size own value : ℚ} (nonneg : 0 ≤ size)
    (size_le : |size - own| ≤ size) (twin : |value| = own)
    (tie : |size - own| = |signed negative size - value|) : value = signed negative own := by
  -- The value has one of two signs, and with the wrong one it is as near only if it is zero.
  have positive : 0 ≤ own := twin ▸ abs_nonneg value
  have either : value = signed negative own ∨ value = signed negative (-own) := by
    rcases eq_or_eq_neg_of_abs_eq twin with rfl | rfl <;> cases negative <;> simp [signed]
  rcases either with same | opposite
  · exact same
  · rw [opposite, signed_sub, sub_neg_eq_add, abs_of_nonneg (add_nonneg nonneg positive)] at tie
    have none : own = 0 := by linarith
    rw [opposite, none, neg_zero]

/-- The number of a nearest magnitude is nearest among all numbers, whatever its sign. -/
theorem nearest_finite {negative : Bool} {magnitude : Magnitude} {size : ℚ} (nonneg : 0 ≤ size)
    (near : magnitude.Nearest (size * unitsPerOne)) (small : size < overflow) :
    Nearest (signed negative size) (.finite negative magnitude) := by
  have one := unitsPerOne_pos
  obtain ⟨own, ownIs⟩ : ∃ own : ℚ, own = magnitude.units / unitsPerOne := ⟨_, rfl⟩
  -- Distances in ones are those in units on a smaller scale.
  have scale (other : Magnitude) :
      |size - other.units / unitsPerOne| = |size * unitsPerOne - other.units| / unitsPerOne := by
    rw [← abs_of_pos one, ← abs_div, abs_of_pos one, sub_div, mul_div_cancel_right₀ _ one.ne']
  have nearer {value : ℚ} (other : Magnitude) (same : |value| = other.units / unitsPerOne) :
      |size - own| ≤ |size - (|value|)| := by
    rw [ownIs, same, scale, scale]
    exact div_le_div_of_nonneg_right (near.closest other) one.le
  -- Closeness is brought from sizes to signed values, and so are ties.
  refine .finite (value?_finite negative magnitude) ?_ ?_ ?_
  · rwa [abs_signed, abs_of_nonneg nonneg]
  · intro other value exact
    obtain ⟨unsigned, same⟩ := exists_units_of_value? exact
    rw [signed_sub, ← ownIs]
    exact (nearer unsigned same).trans (abs_sub_abs_le_signed nonneg negative value)
  · intro other value exact differs tie
    obtain ⟨unsigned, same⟩ := exists_units_of_value? exact
    rw [signed_sub, ← ownIs] at tie
    rw [← ownIs] at differs
    by_cases alike : unsigned.units = magnitude.units
    · have size_le : |size - own| ≤ size := by
        have zero : |size - own| ≤ |size - (|(0 : ℚ)|)| :=
          nearer ⟨0, 0, by decide, by decide, .inl rfl⟩ (by simp [Magnitude.units])
        rwa [abs_zero, sub_zero, abs_of_nonneg nonneg] at zero
      have twin : |value| = own := by rw [same, alike, ownIs]
      exact absurd (eq_signed_of_tie nonneg size_le twin tie) differs
    · apply near.even unsigned alike
      have equal : |size - own| = |size - (|value|)| :=
        le_antisymm (nearer unsigned same) (tie ▸ abs_sub_abs_le_signed nonneg negative value)
      rw [ownIs, same, scale, scale] at equal
      exact (div_left_inj' one.ne').mp equal

/-- A signed quotient is rounded to the number nearest to it. -/
theorem ofQuotient_nearest (negative : Bool) (numerator : Nat) {denominator : Nat}
    (positive : 0 < denominator) :
    Nearest (signed negative (numerator / denominator))
      (ofQuotient negative numerator denominator) := by
  have one := unitsPerOne_pos
  obtain ⟨size, sizeIs⟩ : ∃ size : ℚ, size = numerator / denominator := ⟨_, rfl⟩
  have nonneg : 0 ≤ size := sizeIs ▸ div_nonneg (Nat.cast_nonneg _) (Nat.cast_nonneg _)
  have inUnits : ((numerator * unitsPerOne : ℕ) / denominator : ℚ) = size * unitsPerOne := by
    rw [sizeIs]
    push_cast
    ring
  have nearest := Magnitude.nearest?_spec (numerator * unitsPerOne) positive
  rw [inUnits, limit_eq] at nearest
  rw [← sizeIs, ofQuotient]
  -- A magnitude that was found makes a finite number, and without one it is an infinity.
  rcases nearest with ⟨magnitude, found, near, below⟩ | ⟨missing, beyond⟩
  · rw [found]
    exact nearest_finite nonneg near (lt_of_mul_lt_mul_right below one.le)
  · rw [missing]
    have large : overflow ≤ size := le_of_mul_le_mul_right beyond one
    have positive : 0 < size := lt_of_lt_of_le overflow_pos large
    have sign : decide (signed negative size < 0) = negative := by
      cases negative
      · simpa [signed] using positive.le
      · simpa [signed] using positive
    have infinite : Nearest (signed negative size)
        (.infinity (decide (signed negative size < 0))) :=
      .infinity (by rwa [abs_signed, abs_of_nonneg nonneg])
    rwa [sign] at infinite

/-- A number is an integer of 64 bits exactly when its value is that integer. -/
theorem toInt64?_eq_some_iff {number : Binary64} {whole : Int64} :
    number.toInt64? = some whole ↔ number.value? = some (whole.toInt : ℚ) := by
  have one : 0 < (unitsPerOne : ℤ) := by exact_mod_cast unitsPerOne_pos
  have lower := whole.minValue_le_toInt
  have upper := whole.toInt_le
  unfold toInt64? value?
  cases number.units? with
  | none => simp
  | some units =>
    have exact : (units / unitsPerOne : ℚ) = whole.toInt ↔ units = whole.toInt * unitsPerOne := by
      rw [div_eq_iff unitsPerOne_pos.ne']
      norm_cast
    rw [Option.map_some, Option.some_inj, exact]
    dsimp only [Option.bind_some]
    -- The tests ask for what makes the quotient whole and keeps it within 64 bits.
    constructor
    · intro found
      split_ifs at found with integral range
      obtain rfl := Option.some.inj found
      rw [Int64.toInt_ofInt_of_le range.1 (Int.lt_of_le_sub_one range.2)]
      exact (Int.ediv_mul_cancel (Int.dvd_of_emod_eq_zero integral)).symm
    · rintro rfl
      rw [if_pos (Int.mul_emod_left _ _), Int.mul_ediv_cancel _ one.ne']
      simp only [lower, upper, and_self, if_true, Int64.ofInt_toInt]

/-- Numbers are one rational when they have the same units. -/
theorem value?_inj {left right : Binary64} :
    left.value? = right.value? ↔ left.units? = right.units? := by
  -- Dividing by the units of a one takes different numbers of units to different rationals.
  refine (Option.map_injective ?_).eq_iff
  intro units other same
  exact_mod_cast (div_left_inj' unitsPerOne_pos.ne').mp same

/-- Numbers are equal when they are one rational, or infinities of one sign. -/
theorem equal_iff {left right : Binary64} :
    (left == right) = true ↔
      (∃ value, left.value? = some value ∧ right.value? = some value) ∨
        ∃ negative, left = infinity negative ∧ right = infinity negative := by
  -- The three cases of the comparison are two infinities, two finite numbers and all others.
  show equal left right = true ↔ _
  fun_cases equal left right with
  | case1 left right =>
    rw [beq_iff_eq]
    constructor
    · rintro rfl
      exact .inr ⟨left, rfl, rfl⟩
    · rintro (⟨value, first, -⟩ | ⟨negative, first, second⟩)
      · cases first
      · rw [infinity.inj first, infinity.inj second]
  | case2 leftSign left rightSign right =>
    -- Both are rationals, and these are the same when the numbers of units are.
    rw [beq_iff_eq, ← value?_inj, value?_finite]
    constructor
    · intro same
      exact .inl ⟨_, rfl, same.symm⟩
    · rintro (⟨value, first, second⟩ | ⟨negative, first, second⟩)
      · rw [first, second]
      · cases first
  | case3 left right infinities finites =>
    refine iff_of_false Bool.false_ne_true ?_
    rintro (⟨value, first, second⟩ | ⟨negative, rfl, rfl⟩)
    · obtain ⟨leftSign, left, rfl⟩ := finite_of_value? first
      obtain ⟨rightSign, right, rfl⟩ := finite_of_value? second
      exact finites _ _ _ _ rfl rfl
    · exact infinities _ _ rfl rfl

end Binary64

/-- A numeral is rounded to the number nearest to the rational that it writes. -/
theorem Numeral.toBinary64_nearest (numeral : Numeral) :
    Binary64.Nearest numeral.value numeral.toBinary64 := by
  have positive : 0 < Nat.pow 10 numeral.scale := Nat.pow_pos (by decide)
  have nearest := Binary64.ofQuotient_nearest numeral.negative (digitsValue numeral.digits) positive
  -- The sign is kept apart from the quotient, while the numeral writes both together.
  have value : Binary64.signed numeral.negative
      (digitsValue numeral.digits / (Nat.pow 10 numeral.scale : ℕ)) = numeral.value := by
    rw [Numeral.value, unscaled]
    cases numeral.negative <;> simp [Binary64.signed, neg_div]
  rwa [value] at nearest

namespace Number

/-- The rational that a number is, when it is finite. -/
def value? : Number → Option ℚ
  | int whole => some whole.toInt
  | float number => number.value?

/-- Two numbers that are one rational, or infinities of one sign. -/
inductive Same : Number → Number → Prop
  | finite {left right : Number} {value : ℚ} (first : left.value? = some value)
      (second : right.value? = some value) : Same left right
  | infinite (negative : Bool) : Same (float (.infinity negative)) (float (.infinity negative))

/-- Numbers that are the same have one value or none. -/
theorem Same.value?_eq {left right : Number} (same : left.Same right) :
    left.value? = right.value? := by
  -- Both infinities are without a value.
  cases same with
  | finite first second => exact first.trans second.symm
  | infinite negative => rfl

/-- What a numeral stands for: its integer, or the number that its rational is rounded to. -/
inductive Represents (numeral : Numeral) : Number → Prop
  | int {whole : Int64} (plain : numeral.fraction = none)
      (exact : whole.toInt = numeral.unscaled) : Represents numeral (int whole)
  | float {number : Binary64}
      (wide : numeral.fraction = none → numeral.unscaled < Int64.minValue.toInt ∨
        Int64.maxValue.toInt < numeral.unscaled)
      (nearest : number.Nearest numeral.value) : Represents numeral (float number)

/-- A number equals an integer exactly when it is that integer. -/
theorem numericEq_int_iff {number : Number} {whole : Int64} :
    number.numericEq (int whole) = true ↔ number.value? = some (whole.toInt : ℚ) := by
  -- A float is cast to the integer, and the cast succeeds when it is that integer.
  cases number with
  | int own =>
    show (own == whole) = true ↔ some (own.toInt : ℚ) = some (whole.toInt : ℚ)
    rw [beq_iff_eq, Option.some_inj, Int.cast_inj, Int64.toInt_inj]
  | float number =>
    show (number.toInt64? == some whole) = true ↔ number.value? = some (whole.toInt : ℚ)
    rw [beq_iff_eq, Binary64.toInt64?_eq_some_iff]

/-- Equality of numbers is equality of what they are, in whichever form they are held. -/
theorem numericEq_iff {left right : Number} : left.numericEq right = true ↔ left.Same right := by
  -- An integer is never an infinity, so of two integers or one only the value is compared.
  cases right with
  | int whole =>
    rw [numericEq_int_iff]
    constructor
    · intro own
      exact .finite own rfl
    · intro same
      exact same.value?_eq
  | float right =>
    cases left with
    | int whole =>
      show (right.toInt64? == some whole) = true ↔ _
      rw [beq_iff_eq, Binary64.toInt64?_eq_some_iff]
      constructor
      · intro own
        exact .finite rfl own
      · intro same
        exact same.value?_eq.symm
    | float left =>
      show (left == right) = true ↔ _
      rw [Binary64.equal_iff]
      constructor
      · rintro (⟨value, first, second⟩ | ⟨negative, rfl, rfl⟩)
        · exact .finite first second
        · exact .infinite negative
      · intro same
        cases same with
        | finite first second => exact .inl ⟨_, first, second⟩
        | infinite negative => exact .inr ⟨negative, rfl, rfl⟩

/-- Every numeral stands for the number that it is read as. -/
theorem ofNumeral_represents (numeral : Numeral) : (ofNumeral numeral).Represents numeral := by
  -- A plain numeral that fits is held as an integer, and every other one is rounded.
  unfold ofNumeral
  split_ifs with fits
  · obtain ⟨plain, least, most⟩ := fits
    have exact := Int64.toInt_ofInt_of_le least (Int.lt_of_le_sub_one most)
    exact .int (Option.isNone_iff_eq_none.mp plain) exact
  · refine .float ?_ numeral.toBinary64_nearest
    intro plain
    simp only [plain, Option.isNone_none, true_and] at fits
    omega

/-- A number that a numeral stands for equals itself. -/
theorem Represents.same_self {numeral : Numeral} {number : Number}
    (stands : number.Represents numeral) : number.Same number := by
  -- A numeral writes a number, and so it never stands for the one that is none.
  cases stands with
  | int plain exact => exact .finite rfl rfl
  | float wide nearest =>
    cases nearest with
    | infinity large => exact .infinite _
    | finite exact small closest even => exact .finite exact exact

end Number

/-- A numeral that writes what it stands for: a plain integer of 64 bits, or a binary64 number. -/
def Numeral.IsExact (numeral : Numeral) : Prop :=
  (numeral.fraction = none ∧ Int64.minValue.toInt ≤ numeral.unscaled ∧
      numeral.unscaled ≤ Int64.maxValue.toInt) ∨
    ∃ number : Binary64, number.value? = some numeral.value

/-- Nothing is lost exactly when a numeral writes what it stands for. -/
theorem Number.Represents.value?_eq_iff {numeral : Numeral} {number : Number}
    (stands : number.Represents numeral) :
    number.value? = some numeral.value ↔ numeral.IsExact := by
  cases stands with
  | int plain exact =>
    refine iff_of_true ?_ (.inl ⟨plain, ?_, ?_⟩)
    · rw [Numeral.value_of_plain plain, ← exact]
      rfl
    · exact exact ▸ Int64.minValue_le_toInt _
    · exact exact ▸ Int64.toInt_le _
  | float wide nearest =>
    constructor
    · intro own
      exact .inr ⟨_, own⟩
    · intro exact
      have representable : ∃ number : Binary64, number.value? = some numeral.value := by
        refine exact.resolve_left ?_
        rintro ⟨plain, least, most⟩
        have := wide plain
        omega
      -- A number that the numeral writes is off by nothing, so the nearest one is off by nothing.
      obtain ⟨other, own⟩ := representable
      cases nearest with
      | infinity large => exact absurd large (Binary64.abs_value_lt_overflow own).not_ge
      | finite exact small closest even =>
        have error := closest other numeral.value own
        rw [sub_self, abs_zero] at error
        have same := sub_eq_zero.mp (abs_nonpos_iff.mp error)
        rw [same]
        exact exact

end Motif
