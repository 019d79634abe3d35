import Motif.Number.Layout
import Motif.Pattern.Error
import Motif.Pattern
import Motif.Text.Escape
import Motif.Text.Outline

/-! Outline of patterns and of what is wrong with them, every part spelled out. -/

namespace Motif

/-- A number with its representation. -/
def Number.outline : Number → String
  -- The point of a whole floating-point number is kept, so the two never look the same.
  | int value => applied "Int" [integerText value.toInt]
  | float value => applied "Float" [FloatLayout.outlined.text value]

/-- A literal with all it holds. -/
def Literal.outline (literal : Literal) : String :=
  recorded "Literal" [
    ("text", visibleQuoted literal.text),
    ("number", (literal.number.map fun number => applied "Some" [number.outline]).getD "None"),
    ("quoted", if literal.isQuoted then "true" else "false")]

/-- A name that is bound. -/
def binderOutline (name : String) : String :=
  applied "Binder" [name]

/-- A tail with what it holds. -/
def Tail.outline : Tail → String
  | binder name => applied "Binder" [binderOutline name]
  | wildcard => "Wildcard"

/-- A cons pattern with its heads and its tail. -/
def ConsPattern.outline (cons : ConsPattern) : String :=
  recorded "ConsPattern" [
    ("heads", bracketed (cons.heads.map binderOutline)),
    ("tail", cons.tail.outline)]

/-- A slot with what it holds. -/
def Slot.outline : Slot → String
  | literal value => applied "Literal" [value.outline]
  | binder name => applied "Binder" [binderOutline name]
  | wildcard => "Wildcard"
  | cons parts => applied "Cons" [parts.outline]

/-- A form as its own name. -/
def PatternKind.outline : PatternKind → String
  | wildcard => "Wildcard"
  | literal => "Literal"
  | cons => "Cons"
  | list => "List"
  | typeTag => "TypeTag"

/-- A pattern with what it holds. -/
def Pattern.outline (pattern : Pattern) : String :=
  let name := pattern.kind.outline
  match pattern with
  | wildcard => name
  | literal value => applied name [value.outline]
  | cons parts => applied name [parts.outline]
  | list slots => applied name [bracketed (slots.map Slot.outline)]
  | typeTag path => applied name [visibleQuoted path]

/-- The name of a fault. -/
def PatternFault.name : PatternFault → String
  | empty => "Empty"
  | unexpectedToken .. => "UnexpectedToken"
  | unterminatedString => "UnterminatedString"
  | invalidNumber _ => "InvalidNumber"
  | nestedList => "NestedList"
  | duplicateBinder _ => "DuplicateBinder"
  | invalidBinder _ => "InvalidBinder"
  | unknownType _ => "UnknownType"
  | trailingInput => "TrailingInput"
  | missingTail => "MissingTail"

/-- The texts that a fault holds, each with its label. -/
def PatternFault.details : PatternFault → List (String × String)
  | unexpectedToken expected found => [("expected", expected), ("found", found)]
  | invalidNumber text => [("text", text)]
  | duplicateBinder name | invalidBinder name | unknownType name => [("name", name)]
  | empty | unterminatedString | nestedList | trailingInput | missingTail => []

/-- A fault with what it holds. -/
def PatternFault.outline (fault : PatternFault) : String :=
  -- A fault without texts is its bare name.
  match fault.details with
  | [] => fault.name
  | details => recorded fault.name (details.map fun (label, text) => (label, visibleQuoted text))

end Motif
