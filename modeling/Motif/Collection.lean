import Motif.Value

/-! Operations on lists of values, which may be nested. -/

namespace Motif

/-- Combines a list from left to right. -/
def fold {α β : Type} (combine : β → α → β) (items : List α) (start : β) : β :=
  items.foldl combine start

mutual

/-- The values in a value that are not lists, from left to right. -/
def Value.leaves : Value → List Value
  -- A list has its elements' leaves, and an empty list has none.
  | .list items => flatten items
  | value => [value]

/-- The values in some values that are not lists, from left to right. -/
def flatten : List Value → List Value
  | [] => []
  | item :: rest => item.leaves ++ flatten rest

end

mutual

/-- Replaces a value, or every value in a list that is not itself a list. -/
def Value.mapLeaves (change : Value → Value) : Value → Value
  | .list items => .list (mapDeep change items)
  | value => change value

/-- Replaces the values that are not lists, at any depth. -/
def mapDeep (change : Value → Value) : List Value → List Value
  | [] => []
  | item :: rest => item.mapLeaves change :: mapDeep change rest

end

/-- The largest of some integers and zero; zero too when not all values are integers. -/
def largest (items : List Value) : Int64 :=
  -- Starting from zero, negative integers alone give zero as well.
  match items.mapM Value.asInt? with
  | some numbers => fold (fun best number => if best < number then number else best) numbers 0
  | none => 0

end Motif
