import Motif.Pattern

/-! The names that a pattern binds, in the order in which a match binds them. -/

namespace Motif

/-- The name that a tail binds, if any. -/
def Tail.binders : Tail → List String
  | .binder name => [name]
  | .wildcard => []

namespace ConsPattern

/-- The heads, then the tail. -/
def binders (cons : ConsPattern) : List String :=
  cons.heads ++ cons.tail.binders

/-- One value for every head, and one for a tail that is a name. -/
def arity (cons : ConsPattern) : Nat :=
  match cons.tail with
  | .binder _ => cons.heads.length + 1
  | .wildcard => cons.heads.length

end ConsPattern

namespace Slot

/-- The names that a slot binds. -/
def binders : Slot → List String
  | binder name => [name]
  | cons pattern => pattern.binders
  | literal _ | wildcard => []

/-- The number of values that a slot binds. -/
def arity : Slot → Nat
  | binder _ => 1
  | cons pattern => pattern.arity
  | literal _ | wildcard => 0

end Slot

namespace Pattern

/-- The names that a pattern binds, from left to right. -/
def binders : Pattern → List String
  -- Nested cons patterns bind at the place where they stand.
  | cons pattern => pattern.binders
  | list slots => slots.flatMap Slot.binders
  | wildcard | literal _ | typeTag _ => []

/-- The number of values that a successful match binds. -/
def arity : Pattern → Nat
  | cons pattern => pattern.arity
  | list slots => slots.foldr (fun slot total => slot.arity + total) 0
  | wildcard | literal _ | typeTag _ => 0

/-- The arity when the matched value itself is asked for; only a type tag hands it out. -/
def arityWithSubject (wantsSubject : Bool) (pattern : Pattern) : Nat :=
  match pattern with
  -- By itself a type tag binds nothing.
  | typeTag _ => if wantsSubject then 1 else 0
  | _ => pattern.arity

end Pattern

end Motif
