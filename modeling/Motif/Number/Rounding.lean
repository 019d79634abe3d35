import Motif.Number.Binary64

/-! The binary64 number nearest to a quotient, a tie going to the even neighbour. -/

namespace Motif

/-- A quotient rounded to the nearest whole number, a tie going to the even one. -/
def roundEven (numerator denominator : Nat) : Nat :=
  let quotient := numerator / denominator
  -- Twice the remainder tells on which side of the middle the quotient lies.
  let doubled := 2 * (numerator % denominator)
  if doubled < denominator ∨ doubled = denominator ∧ quotient % 2 = 0 then quotient
  else quotient + 1

/-- The magnitude nearest to a quotient of units, unless it lies beyond the largest one. -/
def Magnitude.nearest? (numerator denominator : Nat) : Option Magnitude :=
  -- The exponent leaves 53 bits before the point, or all of them for a small number.
  let exponent := (numerator / denominator).log2 - 52
  let significand := roundEven numerator (denominator <<< exponent)
  -- Rounding up may take one bit more, and then the last one is zero.
  if significand = 2 * leadingBit then of? leadingBit (exponent + 1) else of? significand exponent

namespace Binary64

/-- A sign with a magnitude; one that lies beyond the largest makes the number infinite. -/
def ofMagnitude? (negative : Bool) : Option Magnitude → Binary64
  | some magnitude => finite negative magnitude
  | none => infinity negative

/-- The number nearest to a signed quotient. -/
def ofQuotient (negative : Bool) (numerator denominator : Nat) : Binary64 :=
  ofMagnitude? negative (Magnitude.nearest? (numerator * unitsPerOne) denominator)

/-- The number nearest to an integer. -/
def ofInt (number : Int) : Binary64 :=
  ofQuotient (decide (number < 0)) number.natAbs 1

end Binary64

end Motif
