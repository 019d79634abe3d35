/-! Binary floating-point numbers of 64 bits, held as exact values. -/

namespace Motif

/-- The leading one of the 53 bits that a significand has at most. -/
def Magnitude.leadingBit : Nat := 1 <<< 52

/-- The size of a finite binary64 number: `significand * 2 ^ exponent` units of `2 ^ -1074`. -/
structure Magnitude where
  significand : Nat
  exponent : Nat
  significand_lt : significand < 2 * Magnitude.leadingBit
  exponent_le : exponent ≤ 2045
  /-- Only the smallest numbers leave the leading bit of the significand unused. -/
  normal : exponent = 0 ∨ Magnitude.leadingBit ≤ significand
  deriving DecidableEq

namespace Magnitude

/-- The magnitude with a given significand and exponent, when binary64 has one. -/
def of? (significand exponent : Nat) : Option Magnitude :=
  if valid : significand < 2 * leadingBit ∧ exponent ≤ 2045 ∧
      (exponent = 0 ∨ leadingBit ≤ significand) then
    some ⟨significand, exponent, valid.1, valid.2.1, valid.2.2⟩
  else none

/-- The magnitude that the two lower fields of an interchange word describe. -/
def ofFields (biased fraction : Nat) (_ : biased < 2047) (_ : fraction < leadingBit) :
    Magnitude :=
  -- Only an exponent of zero leaves the leading bit of the significand unset.
  if biased = 0 then ⟨fraction, 0, by omega, by omega, .inl rfl⟩
  else ⟨leadingBit + fraction, biased - 1, by omega, by omega, .inr (by omega)⟩

/-- The number of units of `2 ^ -1074` that a magnitude holds. -/
def units (magnitude : Magnitude) : Nat :=
  magnitude.significand <<< magnitude.exponent

end Magnitude

/-- A binary64 number. -/
inductive Binary64 where
  /-- What is not a number, whatever the bits that say so. -/
  | nan
  /-- What is larger, or smaller, than every finite number. -/
  | infinity (negative : Bool)
  /-- A sign with a magnitude; zero has a sign too. -/
  | finite (negative : Bool) (magnitude : Magnitude)
  deriving DecidableEq

namespace Binary64

/-- The number of units of `2 ^ -1074` in one. -/
def unitsPerOne : Nat := 1 <<< 1074

/-- The exact value in units of `2 ^ -1074`, when there is one. -/
def units? : Binary64 → Option Int
  | finite negative magnitude => some (if negative then -magnitude.units else magnitude.units)
  | _ => none

/-- Whether a number is neither infinite nor `nan`. -/
def isFinite (number : Binary64) : Bool :=
  number.units?.isSome

/-- Equality of floating-point numbers: `nan` differs from itself, and both zeros are equal. -/
def equal : Binary64 → Binary64 → Bool
  | infinity left, infinity right => left == right
  -- Comparing exact values makes both zeros equal.
  | finite leftSign left, finite rightSign right =>
    (finite leftSign left).units? == (finite rightSign right).units?
  | _, _ => false

instance : BEq Binary64 := ⟨equal⟩

/-- The integer that a number represents exactly, when it is one of 64 bits. -/
def toInt64? (number : Binary64) : Option Int64 :=
  number.units?.bind fun units =>
    -- A remainder of units is a fraction.
    if units % unitsPerOne = 0 then
      let whole := units / unitsPerOne
      if Int64.minValue.toInt ≤ whole ∧ whole ≤ Int64.maxValue.toInt then some (Int64.ofInt whole)
      else none
    else none

/-- The number that an interchange word stands for. -/
def ofBits (word : UInt64) : Binary64 :=
  -- From the top: one bit of sign, eleven of exponent and the fraction.
  let bits := word.toNat
  let negative := decide (1 <<< 63 ≤ bits)
  let biased := (bits >>> 52) % 2048
  let fraction := bits % Magnitude.leadingBit
  if small : biased < 2047 then
    finite negative (.ofFields biased fraction small (Nat.mod_lt _ (by decide)))
  else if fraction = 0 then infinity negative
  else nan

/-- The interchange word of a number, with the usual quiet word for `nan`. -/
def toBits : Binary64 → UInt64
  | nan => 0x7FF8000000000000
  | infinity negative => sign negative + 0x7FF0000000000000
  | finite negative magnitude =>
    -- The leading bit of a full significand adds one to the exponent field.
    sign negative + (magnitude.exponent <<< 52 + magnitude.significand).toUInt64
where
  sign (negative : Bool) : UInt64 := if negative then 0x8000000000000000 else 0

end Binary64

end Motif
