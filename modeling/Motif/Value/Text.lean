import Motif.Number.Layout
import Motif.Text.Escape
import Motif.Text.Outline
import Motif.Value

/-! The text of values: a short one for readers, and an outline. -/

namespace Motif

mutual

/-- The text of a value for readers. -/
def Value.text : Value → String
  | .null => "null"
  | .bool value => if value then "true" else "false"
  | .int value => integerText value.toInt
  | .float value => FloatLayout.plain.text value
  | .string text => asciiQuoted text
  | .list items => bracketed (Value.texts items)
  -- An object is shown by its type alone, since what it wraps may take work to find out.
  | .object nominal => "<" ++ nominal.typeName ++ ">"

/-- The texts of the elements of a list. -/
def Value.texts : List Value → List String
  | [] => []
  | item :: rest => item.text :: Value.texts rest

end

/-- The text of a value for output, where a string stands without quotes. -/
def Value.plainText : Value → String
  | .string text => text
  | value => value.text

mutual

/-- The outline of a value on one line. -/
def Value.outline : Value → String
  | .null => "Null"
  | .bool value => applied "Bool" [if value then "true" else "false"]
  | .int value => applied "Int" [integerText value.toInt]
  | .float value => applied "Float" [FloatLayout.plain.text value]
  | .string text => applied "Str" [visibleQuoted text]
  | .list items => bracketed (Value.outlines items)
  | .object nominal => applied "Object" [nominal.outline]

/-- The outlines of the elements of a list. -/
def Value.outlines : List Value → List String
  | [] => []
  | item :: rest => item.outline :: Value.outlines rest

end

/-- The lines of one element of an indented list, with a comma at their end. -/
def indentedElement (element : String) : String :=
  -- Every line of the element moves in, also one that starts inside a name.
  "    " ++ String.join (element.toList.map indented) ++ ",\n"
where
  indented (char : Char) : String :=
    if char = '\n' then "\n    " else String.singleton char

mutual

/-- The outline of a value with every element of a list on lines of its own. -/
def Value.indented : Value → String
  | .list [] => "[]"
  | .list (first :: rest) => "[\n" ++ Value.indentedElements (first :: rest) ++ "]"
  | value => value.outline

/-- The lines of the elements of a list. -/
def Value.indentedElements : List Value → String
  | [] => ""
  | item :: rest => indentedElement item.indented ++ Value.indentedElements rest

end

end Motif
