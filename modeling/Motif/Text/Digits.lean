/-! Whole numbers in decimal notation. -/

namespace Motif

/-- The decimal digits of a number, the most significant first. -/
def decimalDigits (number : Nat) : List Char :=
  Nat.toDigits 10 number

/-- The number that decimal digits write. -/
def digitsValue (digits : List Char) : Nat :=
  Nat.ofDigitChars 10 digits 0

/-- The digits of a number read back as that number. -/
@[simp] theorem digitsValue_decimalDigits (number : Nat) :
    digitsValue (decimalDigits number) = number :=
  Nat.ofDigitChars_toDigits (by decide) (by decide)

/-- The characters of an integer. -/
def integerChars (number : Int) : List Char :=
  -- A minus sign stands before a negative number, and no sign before any other.
  if number < 0 then '-' :: decimalDigits number.natAbs else decimalDigits number.natAbs

/-- The decimal text of a count. -/
def countText (count : Nat) : String :=
  String.ofList (decimalDigits count)

/-- The decimal text of an integer. -/
def integerText (number : Int) : String :=
  String.ofList (integerChars number)

end Motif
