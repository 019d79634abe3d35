import Mathlib
import Motif.Number

/-! What numerals look like, and that each of them stands for a number equal to itself. -/

namespace Motif

/-- Decimal digits, at least one of them. -/
def AreDigits (chars : List Char) : Prop :=
  -- An empty run is no number, so there has to be a digit.
  chars ≠ [] ∧ ∀ char ∈ chars, char.isDigit = true

/-- Digits with a minus sign or without. -/
def IsInteger (chars : List Char) : Prop :=
  -- The sign is put before the digits and is none of them.
  ∃ digits, AreDigits digits ∧ (chars = digits ∨ chars = '-' :: digits)

/-- An integer with a point and more digits behind it. -/
def IsFloat (chars : List Char) : Prop :=
  -- There are digits on either side of the point, which itself is not a digit.
  ∃ whole fraction, IsInteger whole ∧ AreDigits fraction ∧ chars = whole ++ '.' :: fraction

namespace Numeral

/-- Digits with nothing or a fraction behind them are what an unsigned numeral is read from. -/
theorem chars_of_unsigned? {negative : Bool} {text : List Char} {numeral : Numeral}
    (read : unsigned? negative text = some numeral) :
    AreDigits text ∨
      ∃ whole fraction, AreDigits whole ∧ AreDigits fraction ∧ text = whole ++ '.' :: fraction := by
  -- What the reader splits off in front are digits, and only two things may stand behind them.
  have digits : ∀ char ∈ text.takeWhile Char.isDigit, char.isDigit = true :=
    List.all_eq_true.mp List.all_takeWhile
  have parts : text.takeWhile Char.isDigit ++ text.dropWhile Char.isDigit = text :=
    List.takeWhile_append_dropWhile
  fun_cases unsigned? negative text with
  | case1 whole none =>
    simp only [whole] at none
    simp [unsigned?, none] at read
  | case2 whole some ends =>
    have whole : AreDigits (text.takeWhile Char.isDigit) := ⟨by simpa [whole] using some, digits⟩
    rw [ends, List.append_nil] at parts
    exact .inl (parts ▸ whole)
  | case3 whole some point fraction behind proper =>
    have whole : AreDigits (text.takeWhile Char.isDigit) := ⟨by simpa [whole] using some, digits⟩
    simp only [Bool.and_eq_true, decide_eq_true_eq, Bool.not_eq_true', List.isEmpty_eq_false_iff,
      List.all_eq_true] at proper
    obtain ⟨⟨rfl, inner⟩, all⟩ := proper
    refine .inr ⟨_, fraction, whole, ⟨inner, all⟩, ?_⟩
    rw [← behind, parts]
  | case4 whole some point fraction behind improper =>
    simp [unsigned?, whole, some, behind, improper] at read

/-- A numeral is read only from an integer or a float. -/
theorem chars_of_ofChars? {text : List Char} {numeral : Numeral}
    (read : ofChars? text = some numeral) : IsInteger text ∨ IsFloat text := by
  -- A sign that was taken off goes back before the whole digits, whichever form they are in.
  unfold ofChars? at read
  split at read
  · rename_i rest
    rcases chars_of_unsigned? read with digits | ⟨whole, fraction, digits, inner, rfl⟩
    · exact .inl ⟨rest, digits, .inr rfl⟩
    · exact .inr ⟨'-' :: whole, fraction, ⟨whole, digits, .inr rfl⟩, inner, rfl⟩
  · rcases chars_of_unsigned? read with digits | ⟨whole, fraction, digits, inner, rfl⟩
    · exact .inl ⟨text, digits, .inl rfl⟩
    · exact .inr ⟨whole, fraction, ⟨whole, digits, .inl rfl⟩, inner, rfl⟩

end Numeral

/-- Every number but the one that is none equals itself. -/
theorem Binary64.beq_self {number : Binary64} (some : number ≠ nan) :
    (number == number) = true := by
  -- Infinities are compared by sign and finite numbers by value, so only one case can fail.
  show equal number number = true
  cases number with
  | nan => exact absurd rfl some
  | infinity negative => simp [equal]
  | finite negative magnitude => simp [equal]

/-- A magnitude that is there and one that is not both make a number. -/
theorem Binary64.ofMagnitude?_ne_nan (negative : Bool) (magnitude : Option Magnitude) :
    ofMagnitude? negative magnitude ≠ nan := by
  -- A magnitude that is too large still gives an infinity.
  cases magnitude <;> simp [ofMagnitude?]

/-- The number that a numeral stands for equals itself. -/
theorem Number.ofNumeral_beq_self (numeral : Numeral) :
    (Number.ofNumeral numeral == Number.ofNumeral numeral) = true := by
  -- Both sides have one representation, and a rounded number is never the odd one out.
  unfold ofNumeral
  split
  · simp [BEq.beq, alike]
  · exact Binary64.beq_self (Binary64.ofMagnitude?_ne_nan _ _)

end Motif
