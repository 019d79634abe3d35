import Motif.Number.Binary64

/-! Floating-point numbers as the sixteen hexadecimal digits of their interchange words. -/

namespace Motif

/-- The value of a hexadecimal digit, lowercase if it is a letter. -/
def hexDigit? (char : Char) : Option Nat :=
  if char.isDigit then some (char.toNat - '0'.toNat)
  else if 'a' ≤ char ∧ char ≤ 'f' then some (char.toNat - 'a'.toNat + 10)
  else none

namespace Binary64

/-- The number whose word a text writes in sixteen digits, or `nan` by its name. -/
def ofWordText? (text : String) : Option Binary64 :=
  if text = "nan" then some nan
  else if text.length = 16 then
    (text.toList.mapM hexDigit?).map fun digits =>
      ofBits (digits.foldl (fun word digit => word * 16 + digit) 0).toUInt64
  else none

/-- The word of a number in sixteen digits, or `nan` by its name. -/
def wordText (number : Binary64) : String :=
  match number with
  | nan => "nan"
  | _ =>
    let digits := Nat.toDigits 16 number.toBits.toNat
    String.ofList (List.replicate (16 - digits.length) '0' ++ digits)

end Binary64

end Motif
