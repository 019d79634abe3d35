/-! Outlines, which spell out a thing part by part, with brackets around the parts. -/

namespace Motif

/-- Parts with a comma and a blank between any two. -/
def commaSeparated (parts : List String) : String :=
  String.intercalate ", " parts

/-- A sequence of parts in brackets. -/
def bracketed (parts : List String) : String :=
  "[" ++ commaSeparated parts ++ "]"

/-- A name with its parts in parentheses. -/
def applied (name : String) (parts : List String) : String :=
  name ++ "(" ++ commaSeparated parts ++ ")"

/-- A name with its named parts in braces. -/
def recorded (name : String) (fields : List (String × String)) : String :=
  name ++ " \x7b " ++ commaSeparated (fields.map fun (label, part) => label ++ ": " ++ part) ++
    " \x7d"

/-- A name with some named parts in braces, where two dots stand for what is not shown. -/
def recordedInPart (name : String) (fields : List (String × String)) : String :=
  let shown := fields.map fun (label, part) => label ++ ": " ++ part
  name ++ " \x7b " ++ commaSeparated (shown ++ [".."]) ++ " \x7d"

end Motif
