import Motif.Span

/-! Why a text is not a pattern. -/

namespace Motif

/-- The ways in which a text fails to be a pattern. -/
inductive PatternFault where
  /-- There is nothing but blanks. -/
  | empty
  /-- A token stands where another kind belongs. -/
  | unexpectedToken (expected found : String)
  /-- A quotation is not closed. -/
  | unterminatedString
  /-- A number cannot be read. -/
  | invalidNumber (text : String)
  /-- A list stands in a slot of another list. -/
  | nestedList
  /-- A name is bound by two places of a pattern. -/
  | duplicateBinder (name : String)
  /-- A name does not start with a lowercase letter. -/
  | invalidBinder (name : String)
  /-- A name is none of a type. -/
  | unknownType (name : String)
  /-- Something follows a whole pattern. -/
  | trailingInput
  /-- A cons pattern has a single segment. -/
  | missingTail
  deriving DecidableEq

/-- The message for a fault. -/
def PatternFault.message : PatternFault → String
  | empty => "empty pattern"
  | unexpectedToken expected found => "expected " ++ expected ++ ", found " ++ found
  | unterminatedString => "unterminated string literal"
  | invalidNumber text => "invalid numeric literal `" ++ text ++ "`"
  | nestedList => "nested list patterns are not supported"
  | duplicateBinder name => "binder `" ++ name ++ "` is bound more than once"
  | invalidBinder name =>
    "`" ++ name ++ "` is not a valid binder (binders start with a lowercase letter)"
  | unknownType name => "`" ++ name ++ "` is not a known type name"
  | trailingInput => "unexpected input after the end of the pattern"
  | missingTail => "cons pattern needs a tail after `:`"

/-- A fault at its place. -/
structure PatternRejection where
  fault : PatternFault
  span : Span
  deriving DecidableEq

/-- A fault at its place in a whole pattern text. -/
structure PatternError extends PatternRejection where
  pattern : String
  deriving DecidableEq

/-- The message for an error, which quotes the pattern and names the place. -/
def PatternError.message (error : PatternError) : String :=
  "malformed pattern `" ++ error.pattern ++ "`: " ++ error.fault.message ++
    " (at " ++ error.span.text ++ ")"

end Motif
