import Motif.Proofs.Number.Numeral

/-!
Numerals are read from digits, with a sign or a fraction or both, and from nothing else.

So an integer is read back from its decimal text.
-/

namespace Motif

variable {digits whole fraction text : List Char}

/-- Digits are split off from what stands behind them, unless that begins with one more digit. -/
theorem AreDigits.split (own : AreDigits digits) (behind : List Char)
    (stops : behind.head?.all (fun char => !char.isDigit) = true) :
    (digits ++ behind).takeWhile Char.isDigit = digits ∧
      (digits ++ behind).dropWhile Char.isDigit = behind := by
  -- Both cuts pass the digits and stop right behind them.
  rw [List.takeWhile_append_of_pos own.2, List.dropWhile_append_of_pos own.2]
  cases behind with
  | nil => simp
  | cons first rest =>
    have : first.isDigit = false := by simpa using stops
    simp [this]

/-- Digits do not begin with a minus sign. -/
theorem AreDigits.exists_cons (own : AreDigits digits) :
    ∃ first rest, digits = first :: rest ∧ first.isDigit = true ∧ first ≠ '-' := by
  -- There is a first digit, and a minus sign is none.
  obtain ⟨first, rest, rfl⟩ := List.exists_cons_of_ne_nil own.1
  have digit := own.2 first (by simp)
  refine ⟨first, rest, rfl, digit, ?_⟩
  rintro rfl
  exact absurd digit (by decide)

/-- The point is not among digits. -/
theorem AreDigits.point_notMem (own : AreDigits digits) : '.' ∉ digits := by
  -- A point is no digit.
  intro member
  exact absurd (own.2 _ member) (by decide)

/-- An integer has no point. -/
theorem IsInteger.point_notMem (own : IsInteger text) : '.' ∉ text := by
  -- Neither its digits nor the sign before them is one.
  obtain ⟨digits, own, rfl | rfl⟩ := own
  · exact own.point_notMem
  · simpa using own.point_notMem

/-- A float has a point. -/
theorem IsFloat.point_mem (own : IsFloat text) : '.' ∈ text := by
  -- It stands between the digits.
  obtain ⟨whole, fraction, -, -, rfl⟩ := own
  simp

namespace Numeral

/-- Digits alone are read as a number without a fraction. -/
theorem unsigned?_of_digits (negative : Bool) (own : AreDigits digits) :
    unsigned? negative digits = some ⟨negative, digits, none⟩ := by
  -- Behind the digits there is nothing.
  have split := own.split [] rfl
  rw [List.append_nil] at split
  simp [unsigned?, split, own.1]

/-- Digits around a point are read as a number with a fraction. -/
theorem unsigned?_of_fraction (negative : Bool) (own : AreDigits whole)
    (inner : AreDigits fraction) :
    unsigned? negative (whole ++ '.' :: fraction) = some ⟨negative, whole, some fraction⟩ := by
  -- The first digits end at the point, and those behind it are all that is left.
  have split := own.split ('.' :: fraction) rfl
  have digits : fraction.all Char.isDigit = true := by simpa using inner.2
  simp [unsigned?, split, own.1, inner.1, digits]

/-- A text that does not begin with a minus sign is read as it stands. -/
theorem ofChars?_of_unsigned {first : Char} (rest : List Char) (unsigned : first ≠ '-') :
    ofChars? (first :: rest) = unsigned? false (first :: rest) := by
  -- Only a minus sign is treated in another way.
  unfold ofChars?
  split
  · rename_i same
    exact absurd (List.cons.inj same).1 unsigned
  · rfl

/-- Digits are read without a sign. -/
theorem ofChars?_of_digits (own : AreDigits digits) :
    ofChars? digits = some ⟨false, digits, none⟩ := by
  -- The first of them is no minus sign.
  obtain ⟨first, rest, rfl, -, unsigned⟩ := own.exists_cons
  rw [ofChars?_of_unsigned rest unsigned, unsigned?_of_digits false own]

/-- Whole digits with a fraction are read with the sign that stands before them, if there is one. -/
theorem ofChars?_of_fraction (own : AreDigits whole) (inner : AreDigits fraction) :
    ofChars? (whole ++ '.' :: fraction) = some ⟨false, whole, some fraction⟩ ∧
      ofChars? ('-' :: (whole ++ '.' :: fraction)) = some ⟨true, whole, some fraction⟩ := by
  refine ⟨?_, unsigned?_of_fraction true own inner⟩
  -- Without a sign it is the first digit that says so.
  have read := unsigned?_of_fraction false own inner
  obtain ⟨first, rest, rfl, -, unsigned⟩ := own.exists_cons
  rw [List.cons_append, ofChars?_of_unsigned _ unsigned, ← List.cons_append, read]

/-- Numerals are read from integers and floats, and from no other text. -/
theorem ofChars?_isSome_iff : (ofChars? text).isSome = true ↔ IsInteger text ∨ IsFloat text := by
  -- What is read is known, and for each form the reading is too.
  constructor
  · intro read
    obtain ⟨numeral, read⟩ := Option.isSome_iff_exists.mp read
    exact chars_of_ofChars? read
  · rintro (⟨digits, own, rfl | rfl⟩ | ⟨whole, fraction, ⟨digits, own, rfl | rfl⟩, inner, rfl⟩)
    · rw [ofChars?_of_digits own, Option.isSome_some]
    · rw [show ofChars? ('-' :: digits) = _ from unsigned?_of_digits true own, Option.isSome_some]
    · rw [(ofChars?_of_fraction own inner).1, Option.isSome_some]
    · rw [List.cons_append, (ofChars?_of_fraction own inner).2, Option.isSome_some]

end Numeral

/-- A number is written with digits, and zero too is written with one. -/
theorem areDigits_decimalDigits (number : Nat) : AreDigits (decimalDigits number) :=
  ⟨Nat.toDigits_ne_nil, fun _ => Nat.isDigit_of_mem_toDigits (by decide) (by decide)⟩

/-- The decimal text of an integer is the numeral without a point that writes it. -/
theorem ofChars?_integerChars (number : Int) :
    ∃ numeral, Numeral.ofChars? (integerChars number) = some numeral ∧ numeral.fraction = none ∧
      numeral.unscaled = number := by
  -- A sign is written for a negative integer and is read as such.
  have own := areDigits_decimalDigits number.natAbs
  by_cases negative : number < 0
  · refine ⟨⟨true, decimalDigits number.natAbs, none⟩, ?_, rfl, ?_⟩
    · rw [integerChars, if_pos negative]
      exact Numeral.unsigned?_of_digits true own
    · simp only [Numeral.unscaled, Numeral.digits, Option.getD_none, List.append_nil,
        digitsValue_decimalDigits, if_true]
      omega
  · refine ⟨⟨false, decimalDigits number.natAbs, none⟩, ?_, rfl, ?_⟩
    · rw [integerChars, if_neg negative, Numeral.ofChars?_of_digits own]
    · simp only [Numeral.unscaled, Numeral.digits, Option.getD_none, List.append_nil,
        digitsValue_decimalDigits, Bool.false_eq_true, if_false]
      omega

/-- An integer of 64 bits is read back from its decimal text. -/
theorem Number.parse?_integerText (whole : Int64) :
    parse? (integerText whole.toInt) = some (int whole) := by
  obtain ⟨numeral, read, plain, value⟩ := ofChars?_integerChars whole.toInt
  rw [parse?, integerText, String.toList_ofList, read, Option.map_some, ofNumeral, if_pos, value,
    Int64.ofInt_toInt]
  -- The integer has 64 bits already, so it is in the range that the numeral has to fit.
  rw [plain, value]
  exact ⟨rfl, whole.minValue_le_toInt, whole.toInt_le⟩

end Motif
