import Motif.Number.Shortest
import Motif.Text.Digits

/-! How a floating-point number is laid out as text. -/

namespace Motif

/-- The choices that one style of floating-point text makes. -/
structure FloatLayout where
  /-- The leading digit positions that are written without an exponent. -/
  positional : Int → Bool
  /-- Whether a whole number is written with a zero behind the point. -/
  keepsPoint : Bool

namespace FloatLayout

/-- Text for readers: no exponent ever, and no point after a whole number. -/
def plain : FloatLayout := ⟨fun _ => true, false⟩

/-- Text for outlines: a point in every number, and exponents from `1e16` and below `1e-4`. -/
def outlined : FloatLayout := ⟨fun leading => -4 ≤ leading ∧ leading < 16, true⟩

/-- The digits with a point behind the place of ones, zeros filling the places between. -/
def positionalText (layout : FloatLayout) (decimal : Decimal) : String :=
  let digits := decimalDigits decimal.digits
  let (whole, fraction) :=
    if decimal.exponent < 0 then
      -- Zeros stand between the point and the first digit.
      (['0'], List.replicate (-decimal.exponent - 1).toNat '0' ++ digits)
    else
      -- Zeros stand for the places of ones that the digits do not reach.
      let places := decimal.exponent.toNat + 1
      (digits.take places ++ List.replicate (places - digits.length) '0', digits.drop places)
  if fraction.isEmpty then String.ofList whole ++ (if layout.keepsPoint then ".0" else "")
  else String.ofList whole ++ "." ++ String.ofList fraction

/-- One digit, the rest behind a point, and the exponent of ten. -/
def scientificText (decimal : Decimal) : String :=
  let digits := decimalDigits decimal.digits
  let fraction := if digits.tail.isEmpty then "" else "." ++ String.ofList digits.tail
  String.ofList (digits.take 1) ++ fraction ++ "e" ++ integerText decimal.exponent

/-- The text of a number that has no sign. -/
def magnitudeText (layout : FloatLayout) (magnitude : Magnitude) : String :=
  let decimal := Decimal.shortest magnitude
  if layout.positional decimal.exponent then layout.positionalText decimal
  else scientificText decimal

/-- The text of any number. -/
def text (layout : FloatLayout) : Binary64 → String
  | .nan => "NaN"
  | .infinity negative => sign negative ++ "inf"
  | .finite negative magnitude => sign negative ++ layout.magnitudeText magnitude
where
  sign (negative : Bool) : String := if negative then "-" else ""

end FloatLayout

end Motif
