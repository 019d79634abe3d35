import Motif.Number.Binary64

/-! The shortest decimal that reads back as a given binary64 number. -/

namespace Motif

/-- Decimal digits with a point behind the first of them: `d.ddd * 10 ^ exponent`. -/
structure Decimal where
  /-- The digits as one whole number without trailing zeros. -/
  digits : Nat
  exponent : Int
  deriving DecidableEq

namespace Magnitude

/-- Quarters of a unit, in which the bounds of the rounding interval are whole numbers too. -/
def quarters (magnitude : Magnitude) : Nat :=
  4 * magnitude.units

/-- The upper end of the reals that round to a magnitude, in quarters of a unit. -/
def upper (magnitude : Magnitude) : Nat :=
  magnitude.quarters + 2 <<< magnitude.exponent

/-- The lower end of the reals that round to a magnitude, in quarters of a unit. -/
def lower (magnitude : Magnitude) : Nat :=
  -- Below a power of two the neighbours lie twice as close.
  if magnitude.significand = leadingBit ∧ 0 < magnitude.exponent then
    magnitude.quarters - 1 <<< magnitude.exponent
  else magnitude.quarters - 2 <<< magnitude.exponent

/-- Whether a quotient of quarters rounds to a magnitude: ties go to even significands. -/
def rounds (magnitude : Magnitude) (numerator denominator : Nat) : Bool :=
  -- An end of the interval is a tie between two neighbours.
  if magnitude.significand % 2 = 0 then
    magnitude.lower * denominator ≤ numerator ∧ numerator ≤ magnitude.upper * denominator
  else
    magnitude.lower * denominator < numerator ∧ numerator < magnitude.upper * denominator

end Magnitude

namespace Decimal

/-- The point stands behind the first digit, so the grid of `count` digits has this exponent. -/
def gridExponent (leading : Int) (count : Nat) : Int :=
  leading + 1 - count

/-- The step of a decimal grid as a quotient of quarters of a unit. -/
def gridStep (exponent : Int) : Nat × Nat :=
  -- A negative exponent goes into the denominator, so that both parts stay whole.
  let quartersPerOne := 4 * Binary64.unitsPerOne
  if 0 ≤ exponent then (quartersPerOne * Nat.pow 10 exponent.toNat, 1)
  else (quartersPerOne, Nat.pow 10 (-exponent).toNat)

/-- The position of the leading decimal digit of a quotient of quarters that is not zero. -/
def leadingExponent (quarters : Nat) : Int :=
  let quartersPerOne := 4 * Binary64.unitsPerOne
  if quartersPerOne ≤ quarters then
    (decimalLength (quarters / quartersPerOne) : Int) - 1
  else
    -- The integer part of the inverse has as many digits as zeros come before the leading digit.
    -(decimalLength ((quartersPerOne - 1) / quarters) : Int)
where
  decimalLength (number : Nat) : Nat := (Nat.toDigits 10 number).length

/-- The multiple of a grid's step that reads back and lies nearest; a tie goes up. -/
def onGrid? (magnitude : Magnitude) (exponent : Int) : Option Nat :=
  let (step, denominator) := gridStep exponent
  -- If any multiple reads back, so does one of the two next to the exact value.
  let target := magnitude.quarters * denominator
  let below := target / step
  let above := below + 1
  let belowRounds := magnitude.rounds (below * step) denominator
  let aboveRounds := magnitude.rounds (above * step) denominator
  if aboveRounds && (!belowRounds || above * step - target ≤ target - below * step) then some above
  else if belowRounds then some below
  else none

/-- Removes trailing zeros of a number that is not zero. -/
def dropZeros (digits : Nat) : Nat :=
  if digits % 10 = 0 ∧ digits ≠ 0 then dropZeros (digits / 10) else digits
termination_by digits

/-- The decimal of fewest digits that reads back as a magnitude, and of those the nearest. -/
def shortest (magnitude : Magnitude) : Decimal :=
  if magnitude.significand = 0 then ⟨0, 0⟩
  else
    let leading := leadingExponent magnitude.quarters
    -- Seventeen digits always suffice.
    match (List.range 17).findSome? fun count =>
        (onGrid? magnitude (gridExponent leading (count + 1))).map (·, count + 1) with
    | some (multiple, count) =>
      -- Rounding up may have carried into one more digit.
      let carried := if multiple = Nat.pow 10 count then 1 else 0
      ⟨dropZeros multiple, leading + carried⟩
    | none => ⟨0, 0⟩

end Decimal

end Motif
