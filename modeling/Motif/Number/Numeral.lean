import Motif.Number.Rounding
import Motif.Text.Digits

/-! Numerals: decimal digits with an optional minus sign and an optional fraction. -/

namespace Motif

/-- A decimal numeral as it is written. -/
structure Numeral where
  negative : Bool
  /-- The digits before the point. -/
  whole : List Char
  /-- The digits behind the point, when there is one. -/
  fraction : Option (List Char)
  deriving DecidableEq

namespace Numeral

/-- Reads digits, then either the end or a point with more digits up to the end. -/
def unsigned? (negative : Bool) (text : List Char) : Option Numeral :=
  -- There has to be a digit on either side of a point.
  let whole := text.takeWhile Char.isDigit
  if whole.isEmpty then none
  else
    match text.dropWhile Char.isDigit with
    | [] => some ⟨negative, whole, none⟩
    | point :: fraction =>
      if point = '.' && !fraction.isEmpty && fraction.all Char.isDigit then
        some ⟨negative, whole, some fraction⟩
      else none

/-- Reads a whole text as a numeral. -/
def ofChars? : List Char → Option Numeral
  | '-' :: rest => unsigned? true rest
  | text => unsigned? false text

/-- All digits of a numeral, those of the fraction last. -/
def digits (numeral : Numeral) : List Char :=
  numeral.whole ++ numeral.fraction.getD []

/-- The number of digits behind the point. -/
def scale (numeral : Numeral) : Nat :=
  (numeral.fraction.getD []).length

/-- The integer that the digits write when the point is left out. -/
def unscaled (numeral : Numeral) : Int :=
  -- The point counts only as a power of ten, which `scale` tells.
  let size : Int := digitsValue numeral.digits
  if numeral.negative then -size else size

/-- The binary64 number nearest to a numeral; a sign is kept even before zero. -/
def toBinary64 (numeral : Numeral) : Binary64 :=
  .ofQuotient numeral.negative (digitsValue numeral.digits) (Nat.pow 10 numeral.scale)

end Numeral

/-- Whether a text is a numeral. -/
def isNumeral (text : String) : Bool :=
  (Numeral.ofChars? text.toList).isSome

end Motif
