import Motif.Text.Outline
import Motif.Value

/-! Computations that read and change one state. -/

namespace Motif

/-- A step from a state to a value and the next state. -/
structure Transition where
  run : Value → Value × Value

namespace Transition

/-- Gives a value and leaves the state alone. -/
def of (value : Value) : Transition :=
  ⟨fun state => (value, state)⟩

/-- Gives the state as the value. -/
def get : Transition :=
  ⟨fun state => (state, state)⟩

/-- Replaces the state. -/
def put (next : Value) : Transition :=
  ⟨fun _ => (.null, next)⟩

/-- Changes the value of a transition. -/
def map (transition : Transition) (change : Value → Value) : Transition :=
  ⟨fun state =>
    let (value, next) := transition.run state
    (change value, next)⟩

/-- Goes on with the transition that a function makes of the value. -/
def bind (transition : Transition) (continuation : Value → Transition) : Transition :=
  ⟨fun state =>
    let (value, next) := transition.run state
    (continuation value).run next⟩

/-- The value that a transition gives. -/
def evaluate (transition : Transition) (state : Value) : Value :=
  (transition.run state).1

/-- The state that a transition leads to. -/
def execute (transition : Transition) (state : Value) : Value :=
  (transition.run state).2

/-- The value that a transition gives when there is no state yet. -/
def extract (transition : Transition) : Value :=
  transition.evaluate .null

/-- The name of the type of transitions. -/
def typeName : String := "State"

/-- The outline of a transition, which tells nothing about it. -/
def outline : String := recordedInPart "State" []

/-- The object that stands for a transition among values. -/
def nominal (identity : Nat) (transition : Transition) : Nominal Value :=
  ⟨identity, typeName, transition.extract, outline⟩

end Transition

end Motif
