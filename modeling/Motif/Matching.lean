import Motif.Bindings
import Motif.Pattern
import Motif.Pattern.TypePath

/-! Whether a pattern accepts a value, and what it binds then. -/

namespace Motif

/-- Which lists a list pattern accepts. -/
inductive LengthRule where
  /-- Only lists with one element for every slot. -/
  | exact
  /-- Longer lists too, when the last slot is a wildcard. -/
  | openEnded
  deriving DecidableEq

/-- Whether patterns of a form can accept values of a shape. -/
def PatternKind.accepts : PatternKind → ValueShape → Bool
  | wildcard, _ => true
  | literal, .scalar => true
  | cons, .sequence | list, .sequence => true
  | typeTag, .nominal => true
  | _, _ => false

/-- Whether a literal equals a value; only strings and numbers can equal one. -/
def Literal.accepts (literal : Literal) : Value → Bool
  | .string text => literal.matchesString text
  | .int value => literal.matchesInt value
  | .float value => literal.matchesFloat value
  | .null | .bool _ | .list _ | .object _ => false

/-- Whether a tag names a type, by its whole text or by its last segment. -/
def selectsType (tag typeName : String) : Bool :=
  tag == typeName || lastSegment tag == typeName

/-- The values that a tail binds to the elements that the heads left. -/
def Tail.bind (rest : List Value) : Tail → Bindings
  | binder name => .single name (.list rest)
  | wildcard => .empty

/-- Heads take one element each, and the tail takes the rest. -/
def ConsPattern.bind? (cons : ConsPattern) (items : List Value) : Option Bindings :=
  if items.length < cons.heads.length then none
  -- Pairing stops with the last head, and dropping starts behind it.
  else some (⟨cons.heads.zip items⟩ ++ cons.tail.bind (items.drop cons.heads.length))

namespace Slot

/-- What a slot binds when it accepts an element. -/
def bind? (slot : Slot) (item : Value) : Option Bindings :=
  match slot with
  -- A list inside a list is matched only by a cons pattern.
  | wildcard => some .empty
  | literal value => if value.accepts item then some .empty else none
  | binder name => some (.single name item)
  | cons parts => item.asList?.bind parts.bind?

/-- What slots bind when each accepts the element in its place, as far as both go. -/
def bindAll? : List Slot → List Value → Option Bindings
  | slot :: slots, item :: items => do
    let first ← slot.bind? item
    let rest ← bindAll? slots items
    return first ++ rest
  | _, _ => some .empty

/-- Whether slots may be matched against a list of some length. -/
def fit (rule : LengthRule) (slots : List Slot) (length : Nat) : Bool :=
  -- Only a wildcard at the very end can stand for more than one element.
  match rule, slots.getLast? with
  | .openEnded, some wildcard => slots.length ≤ length
  | _, _ => slots.length == length

end Slot

namespace Pattern

/-- What a pattern binds when it accepts a value. -/
def matchBy? (rule : LengthRule) : Pattern → Value → Option Bindings
  | wildcard, _ => some .empty
  | literal own, value => if own.accepts value then some .empty else none
  | cons parts, .list items => parts.bind? items
  | list slots, .list items =>
    if Slot.fit rule slots items.length then Slot.bindAll? slots items else none
  | typeTag name, .object nominal =>
    if selectsType name nominal.typeName then some .empty else none
  -- Every other form belongs to values of another shape.
  | _, _ => none

/-- Matches a value as a whole. -/
def match? (pattern : Pattern) (value : Value) : Option Bindings :=
  pattern.matchBy? .exact value

/-- Matches a value, where a list pattern that ends in `_` passes over further elements. -/
def matchFront? (pattern : Pattern) (value : Value) : Option Bindings :=
  pattern.matchBy? .openEnded value

end Pattern

end Motif
