import Motif.Value.Equality

/-! The names that a match bound, each with its value. -/

namespace Motif

/-- Names with their values, in the order in which they were bound. -/
structure Bindings where
  entries : List (String × Value)
  deriving BEq

namespace Bindings

/-- No name at all. -/
def empty : Bindings := ⟨[]⟩

/-- One name with its value. -/
def single (name : String) (value : Value) : Bindings := ⟨[(name, value)]⟩

instance : Append Bindings := ⟨fun first second => ⟨first.entries ++ second.entries⟩⟩

/-- Bindings that are put together have the entries of both in order. -/
@[simp] theorem entries_append (first second : Bindings) :
    (first ++ second).entries = first.entries ++ second.entries := rfl

/-- The number of names. -/
def length (bindings : Bindings) : Nat :=
  bindings.entries.length

/-- Whether no name was bound. -/
def isEmpty (bindings : Bindings) : Bool :=
  bindings.entries.isEmpty

/-- The value of a name, the first one if it was bound repeatedly. -/
def get? (bindings : Bindings) (name : String) : Option Value :=
  (bindings.entries.find? fun entry => entry.1 == name).map Prod.snd

/-- The names in binding order. -/
def names (bindings : Bindings) : List String :=
  bindings.entries.map Prod.fst

/-- The values in binding order. -/
def values (bindings : Bindings) : List Value :=
  bindings.entries.map Prod.snd

end Bindings

end Motif
