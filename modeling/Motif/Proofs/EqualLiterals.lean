import Motif.Matching
import Motif.Proofs.Literal
import Motif.Proofs.Number.Equality
import Motif.Proofs.Number.Reading

/-!
Texts fall into classes that no literal tells apart.

A class is one text, or all numerals that stand for one number. An integer belongs to the class of
its decimal text.
-/

namespace Motif.Literal

variable {literal : Literal} {left middle right text : String}

/-- The number of a literal is the one that its text writes. -/
theorem Writes.number_eq_parse? (writes : literal.Writes text) :
    literal.number = Number.parse? text := by
  -- A quoted text is read when it is written, and a bare one has been read to be a literal.
  rcases writes with rfl | bare
  · rfl
  · obtain ⟨number, parsed, rfl⟩ := Option.map_eq_some_iff.mp bare
    exact parsed.symm

/-- Texts that are the same, or numerals that stand for the same number. -/
inductive SameText (left right : String) : Prop
  | text (same : left = right)
  | number {own other : Number} (first : Number.parse? left = some own)
      (second : Number.parse? right = some other) (same : own.Same other)

namespace SameText

/-- A text is in its own class. -/
theorem refl (text : String) : SameText text text := .text rfl

/-- Two texts are in one class in either order. -/
theorem symm (same : SameText left right) : SameText right left := by
  -- The same text and the same number both turn around.
  cases same with
  | text same => exact .text same.symm
  | number first second same => exact .number second first same.symm

/-- A text that shares its class with two others puts them in one class. -/
theorem trans (same : SameText left middle) (next : SameText middle right) :
    SameText left right := by
  cases same with
  | text same =>
    subst same
    exact next
  | number first second same =>
    cases next with
    | text next =>
      subst next
      exact .number first second same
    | number again third next =>
      -- The text in the middle stands for one number only.
      obtain rfl := Option.some.inj (second.symm.trans again)
      exact .number first third (same.trans next)

end SameText

/-- A literal matches exactly the texts of its own class. -/
theorem matchesString_iff_sameText (writes : literal.Writes text) {other : String} :
    literal.matchesString other = true ↔ SameText text other := by
  -- The test compares texts first and then the numbers of both, if both have one.
  rw [matchesString, Bool.or_eq_true, beq_iff_eq, Option.any_eq_true, writes.text_eq]
  simp only [matchesNumber, writes.number_eq_parse?, Option.any_eq_true]
  constructor
  · rintro (same | ⟨number, second, own, first, equal⟩)
    · exact .text same
    · exact .number first second (Number.numericEq_iff.mp equal)
  · rintro (same | ⟨first, second, same⟩)
    · exact .inl same
    · exact .inr ⟨_, second, _, first, Number.numericEq_iff.mpr same⟩

/-- Texts of one class stand for the same number, if they stand for any. -/
theorem matchesNumber_eq_of_sameText {first second : Literal} (writes : first.Writes left)
    (others : second.Writes right) (same : SameText left right) (number : Number) :
    first.matchesNumber number = second.matchesNumber number := by
  -- A number that equals one of two equal ones equals the other.
  rw [matchesNumber, matchesNumber, writes.number_eq_parse?, others.number_eq_parse?]
  cases same with
  | text same => rw [same]
  | number own other same =>
    rw [own, other, Option.any_some, Option.any_some, Number.numericEq_comm,
      same.numericEq_eq number, Number.numericEq_comm]

/-- Literals for texts of one class accept the same values, whether they are quoted or not. -/
theorem accepts_eq_of_sameText {first second : Literal} (writes : first.Writes left)
    (others : second.Writes right) (same : SameText left right) (value : Value) :
    first.accepts value = second.accepts value := by
  cases value with
  | string text =>
    -- A string is accepted by its class, which is the same for both literals.
    show first.matchesString text = second.matchesString text
    rw [Bool.eq_iff_iff, matchesString_iff_sameText writes, matchesString_iff_sameText others]
    exact ⟨same.symm.trans, same.trans⟩
  | int whole => exact matchesNumber_eq_of_sameText writes others same (.int whole)
  | float number => exact matchesNumber_eq_of_sameText writes others same (.float number)
  | null | bool | list | object => rfl

/-- An integer and its decimal text are matched by the same literals. -/
theorem matchesInt_eq_matchesString (writes : literal.Writes text) (whole : Int64) :
    literal.matchesInt whole = literal.matchesString (integerText whole.toInt) := by
  -- The decimal text of an integer is a numeral that stands for it.
  have parsed := Number.parse?_integerText whole
  rw [matchesString, parsed, Option.any_some, writes.text_eq]
  by_cases same : text = integerText whole.toInt
  · -- The literal has the integer's own text, so it stands for the integer.
    have own : (Number.int whole).numericEq (.int whole) = true :=
      Number.numericEq_iff.mpr (Number.same_self_iff.mpr (by simp))
    rw [matchesInt, matchesNumber, writes.number_eq_parse?, same, parsed, Option.any_some, own,
      beq_self_eq_true, Bool.true_or]
  · rw [beq_eq_false_iff_ne.mpr same, Bool.false_or, matchesInt]

/--
Texts that a quoted literal matches are those of its class, and literals of one class are
interchangeable.

A bare numeral is interchangeable with the same numeral in quotes, and no literal tells an integer
from its decimal text.
-/
theorem literals_of_one_class_are_interchangeable :
    Equivalence (fun left right => (quoted left).matchesString right = true) ∧
      (∀ left right, (quoted left).matchesString right = true →
        ∀ value, (quoted left).accepts value = (quoted right).accepts value) ∧
      (∀ text, isNumeral text = true → ∃ bare, numeral? text = some bare ∧
        ∀ value, bare.accepts value = (quoted text).accepts value) ∧
      ∀ literal text, (literal = quoted text ∨ numeral? text = some literal) →
        ∀ whole : Int64,
          literal.matchesInt whole = literal.matchesString (integerText whole.toInt) := by
  -- What a quoted literal matches is told by classes from here on.
  have classes (left right : String) :
      (quoted left).matchesString right = true ↔ SameText left right :=
    matchesString_iff_sameText (.inl rfl)
  refine ⟨?_, ?_, ?_, fun literal text => matchesInt_eq_matchesString⟩
  · simp only [classes]
    exact ⟨.refl, .symm, .trans⟩
  · intro left right same
    exact accepts_eq_of_sameText (.inl rfl) (.inl rfl) ((classes left right).mp same)
  · intro text numeral
    obtain ⟨own, read⟩ := Option.isSome_iff_exists.mp numeral
    have bare : numeral? text = some ⟨text, some (.ofNumeral own), false⟩ := by
      rw [numeral?, Number.parse?, read]
      rfl
    exact ⟨_, bare, accepts_eq_of_sameText (.inr bare) (.inl rfl) (.refl text)⟩

/-- Zeros with other digits and signs make one class, and so do integers beyond 64 bits. -/
theorem literals_of_one_class_are_interchangeable_of_zeros :
    (quoted "-0").matchesString "00.0" = true ∧
      (quoted "-0").accepts (.int 0) = (quoted "00.0").accepts (.int 0) ∧
      isNumeral "9223372036854775808" = true ∧
      (∃ bare, numeral? "9223372036854775808" = some bare ∧
        ∀ value, bare.accepts value = (quoted "9223372036854775808").accepts value) ∧
      (quoted "007").matchesInt 7 = (quoted "007").matchesString (integerText 7) := by
  obtain ⟨-, classes, bare, integers⟩ := literals_of_one_class_are_interchangeable
  -- Both texts stand for zero, and the numeral is beyond the integers.
  have same : (quoted "-0").matchesString "00.0" = true := by decide +kernel
  have numeral : isNumeral "9223372036854775808" = true := by decide +kernel
  exact ⟨same, classes _ _ same _, numeral, bare _ numeral, integers _ _ (.inl rfl) 7⟩

end Motif.Literal
