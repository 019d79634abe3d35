import Motif.Literal

/-! Patterns: the five forms that a value is matched against. -/

namespace Motif

/-- The last part of a cons pattern. -/
inductive Tail where
  /-- Binds the elements that the heads leave. -/
  | binder (name : String)
  /-- Passes over them. -/
  | wildcard
  deriving DecidableEq

/-- Heads and a tail, as in `(a:b:rest)`. -/
structure ConsPattern where
  heads : List String
  tail : Tail
  deriving DecidableEq

/-- One position of a list pattern. -/
inductive Slot where
  | literal (literal : Literal)
  | binder (name : String)
  | wildcard
  | cons (cons : ConsPattern)
  deriving BEq

/-- A pattern. -/
inductive Pattern where
  /-- Accepts any value: `_`. -/
  | wildcard
  /-- Accepts an equal scalar: `"foo"` or `12`. -/
  | literal (literal : Literal)
  /-- Accepts a list of at least as many elements as there are heads: `(x:xs)`. -/
  | cons (cons : ConsPattern)
  /-- Accepts a list that fits slot by slot: `["foo", x]`. -/
  | list (slots : List Slot)
  /-- Accepts an object of a type: `IO`. -/
  | typeTag (name : String)
  deriving BEq

/-- The form of a pattern without what it holds. -/
inductive PatternKind where
  | wildcard
  | literal
  | cons
  | list
  | typeTag
  deriving DecidableEq

namespace PatternKind

/-- What a form is called. -/
def name : PatternKind → String
  | wildcard => "wildcard"
  | literal => "literal"
  | cons => "cons"
  | list => "list"
  | typeTag => "type tag"

/-- All forms. -/
def all : List PatternKind := [wildcard, literal, cons, list, typeTag]

/-- The form of a given name. -/
def ofName? (name : String) : Option PatternKind :=
  all.find? fun kind => kind.name == name

end PatternKind

namespace Pattern

/-- The form of a pattern. -/
def kind : Pattern → PatternKind
  | wildcard => .wildcard
  | literal _ => .literal
  | cons _ => .cons
  | list _ => .list
  | typeTag _ => .typeTag

/-- Whether a pattern accepts every value. -/
def isWildcard : Pattern → Bool
  | wildcard => true
  | _ => false

end Pattern

end Motif
