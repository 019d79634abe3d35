import Motif.Number
import Motif.Text.Quotation

/-! Literals of patterns, and the scalars that they match. -/

namespace Motif

/-- A literal: its text, the number it stands for if any, and whether it was quoted. -/
structure Literal where
  /-- The text without quotes and escapes. -/
  text : String
  number : Option Number
  isQuoted : Bool
  deriving BEq

namespace Literal

/-- A quoted literal for a text, which is a number too when the text is a numeral. -/
def quoted (text : String) : Literal :=
  ⟨text, Number.parse? text, true⟩

/-- A bare numeral, when the text is one. -/
def numeral? (text : String) : Option Literal :=
  (Number.parse? text).map fun number => ⟨text, some number, false⟩

/-- Whether a literal stands for a number equal to another. -/
def matchesNumber (literal : Literal) (number : Number) : Bool :=
  -- A literal that is no numeral equals no number.
  literal.number.any fun own => own.numericEq number

/-- A string matches when it is the same text or a numeral of equal value. -/
def matchesString (literal : Literal) (text : String) : Bool :=
  literal.text == text || (Number.parse? text).any literal.matchesNumber

/-- An integer matches a literal of equal value. -/
def matchesInt (literal : Literal) (value : Int64) : Bool :=
  literal.matchesNumber (.int value)

/-- A floating-point number matches a literal of equal value. -/
def matchesFloat (literal : Literal) (value : Binary64) : Bool :=
  literal.matchesNumber (.float value)

/-- The characters of a literal as a pattern shows it. -/
def chars (literal : Literal) : List Char :=
  if literal.isQuoted then quote literal.text.toList else literal.text.toList

/-- The canonical text of a literal. -/
def canonicalText (literal : Literal) : String :=
  String.ofList literal.chars

end Literal

end Motif
