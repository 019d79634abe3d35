import Motif.Value

/-! Equality of values, which is structural but for objects and numbers. -/

namespace Motif

mutual

/-- Values are equal part by part, objects when they are the same, numbers as numbers are. -/
def Value.equal : Value → Value → Bool
  | .null, .null => true
  | .bool left, .bool right => left == right
  | .int left, .int right => left == right
  | .float left, .float right => left == right
  | .string left, .string right => left == right
  | .list left, .list right => Value.equalAll left right
  -- What objects wrap plays no part.
  | .object left, .object right => left.identity == right.identity
  | _, _ => false

/-- Lists are equal when they have equal elements in the same places. -/
def Value.equalAll : List Value → List Value → Bool
  | [], [] => true
  | left :: lefts, right :: rights => Value.equal left right && Value.equalAll lefts rights
  | _, _ => false

end

instance : BEq Value := ⟨Value.equal⟩

/-- A value together with the place that holds it; copies of a value share their place. -/
structure Placed where
  place : Nat
  value : Value

/-- Whether two texts, two lists or two objects are one and the same. -/
def Placed.same? (left right : Placed) : Option Bool :=
  -- Other values have no place of their own, and neither do values of two kinds share one.
  match left.value, right.value with
  | .string _, .string _ | .list _, .list _ => some (left.place == right.place)
  | .object first, .object second => some (first.identity == second.identity)
  | _, _ => none

end Motif
