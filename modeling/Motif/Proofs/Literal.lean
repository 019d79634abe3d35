import Motif.Literal
import Motif.Proofs.Number.Value

/-!
What the numeral of a literal matches: integers and numerals that stand for the same number.

A numeral that is no 64-bit integer stands for a rounded number, and that is what is compared.
-/

namespace Motif.Literal

/-- A literal for a text, with quotes or without. -/
def Writes (literal : Literal) (text : String) : Prop :=
  literal = quoted text ∨ numeral? text = some literal

variable {literal : Literal} {text : String} {numeral : Numeral}

/-- A literal keeps the text that it is written with. -/
theorem Writes.text_eq (writes : literal.Writes text) : literal.text = text := by
  -- Quotes are not part of the text, and a bare numeral is all of it.
  rcases writes with rfl | bare
  · rfl
  · obtain ⟨number, -, rfl⟩ := Option.map_eq_some_iff.mp bare
    rfl

/-- A literal for a numeral stands for the number that is read from it. -/
theorem Writes.number_eq (writes : literal.Writes text)
    (read : Numeral.ofChars? text.toList = some numeral) :
    literal.number = some (Number.ofNumeral numeral) := by
  -- In quotes and without them the number is read from the same text.
  have parsed : Number.parse? text = some (Number.ofNumeral numeral) := by
    rw [Number.parse?, read, Option.map_some]
  rcases writes with rfl | bare
  · exact parsed
  · rw [numeral?, parsed] at bare
    obtain rfl := Option.some.inj bare
    rfl

/-- An integer matches when it is the number that the numeral stands for. -/
theorem matchesInt_iff (writes : literal.Writes text)
    (read : Numeral.ofChars? text.toList = some numeral) {whole : Int64} :
    literal.matchesInt whole = true ↔
      (Number.ofNumeral numeral).value? = some (whole.toInt : ℚ) := by
  -- Numbers are compared exactly, whichever way they are held.
  rw [matchesInt, matchesNumber, writes.number_eq read, Option.any_some]
  exact Number.numericEq_int_iff

/-- A numeral matches when both of them stand for the same number. -/
theorem matchesString_iff (writes : literal.Writes text)
    (read : Numeral.ofChars? text.toList = some numeral) {other : String} {numeral' : Numeral}
    (read' : Numeral.ofChars? other.toList = some numeral') :
    literal.matchesString other = true ↔
      (Number.ofNumeral numeral).Same (Number.ofNumeral numeral') := by
  have parsed : Number.parse? other = some (Number.ofNumeral numeral') := by
    rw [Number.parse?, read', Option.map_some]
  rw [matchesString, parsed, Option.any_some, matchesNumber, writes.number_eq read,
    Option.any_some, Bool.or_eq_true, Number.numericEq_iff, beq_iff_eq, writes.text_eq]
  -- The same text is the same numeral, so comparing texts first makes no difference.
  refine or_iff_right_of_imp ?_
  rintro rfl
  obtain rfl := Option.some.inj (read.symm.trans read')
  exact (Number.ofNumeral_represents numeral).same_self

/-- Comparison is exact on the written numbers wherever nothing is lost by reading them. -/
theorem compares_written_numbers_of_exact (writes : literal.Writes text)
    (read : Numeral.ofChars? text.toList = some numeral) (exact : numeral.IsExact) :
    (∀ whole : Int64, literal.matchesInt whole = true ↔ numeral.value = whole.toInt) ∧
      ∀ other otherNumeral, Numeral.ofChars? other.toList = some otherNumeral →
        otherNumeral.IsExact →
          (literal.matchesString other = true ↔ numeral.value = otherNumeral.value) := by
  -- The number that stands for an exact numeral has the value that the numeral writes.
  have value := (Number.ofNumeral_represents numeral).value?_eq_iff.mpr exact
  refine ⟨?_, ?_⟩
  · intro whole
    rw [matchesInt_iff writes read, value, Option.some_inj]
  · intro other otherNumeral otherRead otherExact
    have otherValue := (Number.ofNumeral_represents otherNumeral).value?_eq_iff.mpr otherExact
    rw [matchesString_iff writes read otherRead]
    constructor
    · intro same
      exact Option.some_inj.mp (value.symm.trans (same.value?_eq.trans otherValue))
    · intro equal
      rw [← equal] at otherValue
      exact .finite value otherValue

/--
Integers and numerals are compared with the number that a literal's numeral stands for.

That is the number it writes, unless reading loses some of it: where nothing is lost, comparison is
exact on the written numbers.
-/
theorem compares_what_numeral_stands_for (writes : literal.Writes text)
    (read : Numeral.ofChars? text.toList = some numeral) :
    (∃ number : Number, number.Represents numeral ∧
      (∀ whole : Int64, literal.matchesInt whole = true ↔
        number.value? = some (whole.toInt : ℚ)) ∧
      ∀ other otherNumeral, Numeral.ofChars? other.toList = some otherNumeral →
        ∃ otherNumber : Number, otherNumber.Represents otherNumeral ∧
          (literal.matchesString other = true ↔ number.Same otherNumber)) ∧
    (numeral.IsExact →
      (∀ whole : Int64, literal.matchesInt whole = true ↔ numeral.value = whole.toInt) ∧
      ∀ other otherNumeral, Numeral.ofChars? other.toList = some otherNumeral →
        otherNumeral.IsExact →
          (literal.matchesString other = true ↔ numeral.value = otherNumeral.value)) := by
  -- The number is the one that was read, which the numeral stands for.
  refine ⟨⟨Number.ofNumeral numeral, Number.ofNumeral_represents numeral, ?_, ?_⟩,
    compares_written_numbers_of_exact writes read⟩
  · intro whole
    exact matchesInt_iff writes read
  · intro other otherNumeral otherRead
    exact ⟨_, Number.ofNumeral_represents otherNumeral, matchesString_iff writes read otherRead⟩

/-- A fraction that rounding loses, next to an integer, and one that is a number of 64 bits. -/
theorem compares_what_numeral_stands_for_of_fraction :
    let wide : Numeral := ⟨false, "9007199254740993".toList, some ['0']⟩
    let even : Numeral := ⟨false, "9007199254740992".toList, none⟩
    let short : Numeral := ⟨false, ['2'], some ['5']⟩
    let long : Numeral := ⟨false, ['2'], some ['5', '0']⟩
    Numeral.ofChars? "9007199254740993.0".toList = some wide ∧
      Numeral.ofChars? "9007199254740992".toList = some even ∧
      (∃ number other : Number, number.Represents wide ∧ other.Represents even ∧
        (∀ whole : Int64, (quoted "9007199254740993.0").matchesInt whole = true ↔
          number.value? = some (whole.toInt : ℚ)) ∧
        ((quoted "9007199254740993.0").matchesString "9007199254740992" = true ↔
          number.Same other)) ∧
      Numeral.ofChars? "2.5".toList = some short ∧ Numeral.ofChars? "2.50".toList = some long ∧
      short.IsExact ∧ long.IsExact ∧
      ((quoted "2.5").matchesInt 2 = true ↔ short.value = (2 : Int64).toInt) ∧
      ((quoted "2.5").matchesString "2.50" = true ↔ short.value = long.value) := by
  intro wide even short long
  have first : Numeral.ofChars? "9007199254740993.0".toList = some wide := by decide
  have second : Numeral.ofChars? "9007199254740992".toList = some even := by decide
  have third : Numeral.ofChars? "2.5".toList = some short := by decide
  have fourth : Numeral.ofChars? "2.50".toList = some long := by decide
  -- Five halves are five times a power of two, which binary64 holds without rounding.
  let halves : Magnitude := ⟨5 * 2 ^ 50, 1023, by decide, by decide, .inr (by decide)⟩
  have units : halves.units = 5 * 2 ^ 1073 := by
    rw [Magnitude.units, Nat.shiftLeft_eq, mul_assoc, ← pow_add]
    rfl
  have step : (2 : ℚ) ^ 1073 ≠ 0 := pow_ne_zero _ two_ne_zero
  have held : Binary64.value? (.finite false halves) = some (5 / 2 : ℚ) := by
    rw [Binary64.value?_finite, Binary64.unitsPerOne_eq, units, pow_succ' _ 1073, Nat.cast_mul,
      Nat.cast_pow, Nat.cast_ofNat, Nat.cast_ofNat, mul_div_mul_right _ _ step]
    rfl
  have own : short.value = 5 / 2 := by
    rw [Numeral.value, show Numeral.unscaled short = 25 by decide]
    norm_num [short, Numeral.scale]
  have same : long.value = 5 / 2 := by
    rw [Numeral.value, show Numeral.unscaled long = 250 by decide]
    norm_num [long, Numeral.scale]
  have exact : short.IsExact := .inr ⟨_, own ▸ held⟩
  have exact' : long.IsExact := .inr ⟨_, same ▸ held⟩
  obtain ⟨⟨number, stands, integers, strings⟩, -⟩ :=
    compares_what_numeral_stands_for (.inl rfl) first
  obtain ⟨other, beside, equal⟩ := strings _ _ second
  obtain ⟨wholes, texts⟩ := (compares_what_numeral_stands_for (.inl rfl) third).2 exact
  exact ⟨first, second, ⟨number, other, stands, beside, integers, equal⟩, third, fourth, exact,
    exact', wholes 2, texts _ _ fourth exact'⟩

/-- A numeral with a point that needs 54 bits is rounded to an integer, and matches that one. -/
theorem rounded_numeral_matches_another_integer :
    ∃ numeral, Numeral.ofChars? "9007199254740993.0".toList = some numeral ∧
      numeral.value = (9007199254740993 : ℚ) ∧
      (quoted "9007199254740993.0").matchesInt 9007199254740992 = true ∧
      (quoted "9007199254740993.0").matchesInt 9007199254740993 = false := by
  -- The value is computed from the digits, and the comparison is run.
  refine ⟨⟨false, "9007199254740993".toList, some ['0']⟩, by decide, ?_, by decide +kernel,
    by decide +kernel⟩
  have unscaled : Numeral.unscaled ⟨false, "9007199254740993".toList, some ['0']⟩ =
      90071992547409930 := by decide
  rw [Numeral.value, unscaled]
  norm_num [Numeral.scale]

end Motif.Literal
