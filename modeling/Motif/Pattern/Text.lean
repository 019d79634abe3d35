import Motif.Pattern

/-! The canonical text of a pattern. -/

namespace Motif

/-- The characters of a tail. -/
def Tail.chars : Tail → List Char
  | .binder name => name.toList
  | .wildcard => ['_']

/-- Every head with a colon behind it, and the tail, in parentheses. -/
def ConsPattern.chars (cons : ConsPattern) : List Char :=
  '(' :: (cons.heads.flatMap (fun head => head.toList ++ [':']) ++ cons.tail.chars ++ [')'])

/-- The characters of a slot. -/
def Slot.chars : Slot → List Char
  | .literal value => value.chars
  | .binder name => name.toList
  | .wildcard => ['_']
  | .cons parts => parts.chars

namespace Pattern

/-- The slots of a list, a comma and a blank between any two. -/
def slotsChars (slots : List Slot) : List Char :=
  [',', ' '].intercalate (slots.map Slot.chars)

/-- The characters of a pattern. -/
def chars : Pattern → List Char
  | wildcard => ['_']
  | literal value => value.chars
  | cons parts => parts.chars
  | list slots => '[' :: (slotsChars slots ++ [']'])
  | typeTag name => name.toList

/-- The canonical text of a pattern. -/
def text (pattern : Pattern) : String :=
  String.ofList pattern.chars

end Pattern

end Motif
