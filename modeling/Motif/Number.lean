import Motif.Number.Numeral

/-! The numbers that numerals stand for, and when two of them are equal. -/

namespace Motif

/-- A number in one of two representations. -/
inductive Number where
  /-- An integer of 64 bits. -/
  | int (value : Int64)
  /-- A floating-point number. -/
  | float (value : Binary64)

namespace Number

/-- Equality of representation: an integer never equals a floating-point number. -/
def alike : Number → Number → Bool
  | int left, int right => left == right
  | float left, float right => left == right
  | _, _ => false

instance : BEq Number := ⟨alike⟩

/-- Equality of value: `12` equals `12.0`, and numbers that differ at all are unequal. -/
def numericEq : Number → Number → Bool
  | int left, int right => left == right
  | float left, float right => left == right
  -- No rounding: the floating-point number has to be that very integer.
  | int whole, float number | float number, int whole => number.toInt64? == some whole

/-- The nearest floating-point number. -/
def toBinary64 : Number → Binary64
  | int value => .ofInt value.toInt
  | float value => value

/-- An integer when the numeral has no point and fits, and else a floating-point number. -/
def ofNumeral (numeral : Numeral) : Number :=
  -- An integer that takes more than 64 bits is still a numeral.
  if numeral.fraction.isNone ∧ Int64.minValue.toInt ≤ numeral.unscaled ∧
      numeral.unscaled ≤ Int64.maxValue.toInt then
    int (Int64.ofInt numeral.unscaled)
  else float numeral.toBinary64

/-- The number that a text writes, when it is a numeral. -/
def parse? (text : String) : Option Number :=
  (Numeral.ofChars? text.toList).map ofNumeral

end Number

end Motif
