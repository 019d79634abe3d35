import Motif.Collection
import Motif.Value.Equality
import Motif.Value.Text

/-! Collections of values that grow with every step. -/

namespace Motif

/-- A collection that keeps its elements and appends what is made from them. -/
structure Accumulation where
  collection : List Value
  deriving BEq

namespace Accumulation

/-- A list is the collection itself, and any other value its only element. -/
def of (value : Value) : Accumulation :=
  match value with
  | .list items => ⟨items⟩
  | single => ⟨[single]⟩

/-- The empty collection. -/
def empty : Accumulation := ⟨[]⟩

/-- The elements that are not lists, at any depth. -/
def extract (accumulation : Accumulation) : List Value :=
  flatten accumulation.collection

/-- Appends the results of every function on the elements at any depth. -/
def applyAll (accumulation : Accumulation) (functions : List (Value → Value)) : Accumulation :=
  -- Functions see single elements, but lists that they give are kept as they are.
  let items := accumulation.extract
  ⟨fold (· ++ ·) (functions.map fun change => mapDeep change items) items⟩

/-- Appends what a function makes of every element, one level deep. -/
def bind (accumulation : Accumulation) (produce : Value → Accumulation) : Accumulation :=
  -- Here the function sees whole elements, lists among them.
  let produced := accumulation.collection.map fun item => Value.list (produce item).extract
  ⟨flatten (accumulation.collection ++ produced)⟩

/-- Appends the results of a function on every element. -/
def map (accumulation : Accumulation) (change : Value → Value) : Accumulation :=
  accumulation.bind fun item => of (change item)

/-- The elements after a function was mapped. -/
def flatMap (accumulation : Accumulation) (change : Value → Value) : List Value :=
  (accumulation.map change).extract

/-- The outline of a collection. -/
def outline (accumulation : Accumulation) : String :=
  recorded "ListMonad" [("collection", bracketed (Value.outlines accumulation.collection))]

/-- The object that stands for a collection among values. -/
def nominal (identity : Nat) (accumulation : Accumulation) : Nominal Value :=
  ⟨identity, "ListMonad", .list accumulation.extract, accumulation.outline⟩

end Accumulation

end Motif
