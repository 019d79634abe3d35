import Motif.Number.Binary64

/-! Values that patterns are matched against. -/

namespace Motif

/-- An object of a declared type, with what a reader can learn about it. -/
structure Nominal (α : Type) where
  /-- Objects made separately have different identities. -/
  identity : Nat
  /-- The name that type tags select. -/
  typeName : String
  /-- The value that the object wraps. -/
  content : α
  /-- The outline of the object. -/
  outline : String

/-- A value. -/
inductive Value where
  /-- No value in particular; what is missing is null. -/
  | null
  /-- A truth value. -/
  | bool (value : Bool)
  /-- An integer of 64 bits. -/
  | int (value : Int64)
  /-- A floating-point number. -/
  | float (value : Binary64)
  /-- A text. -/
  | string (text : String)
  /-- Values in order. -/
  | list (items : List Value)
  /-- An object of a declared type. -/
  | object (nominal : Nominal Value)
  deriving Inhabited

/-- What a value looks like to a pattern. -/
inductive ValueShape where
  /-- What has no parts: null, truth values, numbers and texts. -/
  | scalar
  /-- A list. -/
  | sequence
  /-- An object. -/
  | nominal
  deriving DecidableEq

namespace ValueShape

/-- What a shape is called. -/
def name : ValueShape → String
  | scalar => "scalar"
  | sequence => "sequence"
  | nominal => "nominal"

/-- The shape of a given name. -/
def ofName? (name : String) : Option ValueShape :=
  [scalar, sequence, nominal].find? fun shape => shape.name == name

end ValueShape

namespace Value

/-- The shape of a value. -/
def shape : Value → ValueShape
  | list _ => .sequence
  | object _ => .nominal
  | null | bool _ | int _ | float _ | string _ => .scalar

/-- The truth value that a value is, if it is one. -/
def asBool? : Value → Option Bool
  | bool value => some value
  | _ => none

/-- The integer that a value is, if it is one. -/
def asInt? : Value → Option Int64
  | int value => some value
  | _ => none

/-- The floating-point number that a value is, if it is one. -/
def asFloat? : Value → Option Binary64
  | float value => some value
  | _ => none

/-- The text that a value is, if it is one. -/
def asString? : Value → Option String
  | string text => some text
  | _ => none

/-- The elements of a value, if it is a list. -/
def asList? : Value → Option (List Value)
  | list items => some items
  | _ => none

/-- The object that a value is, if it is one. -/
def asObject? : Value → Option (Nominal Value)
  | object nominal => some nominal
  | _ => none

/-- The name of a value's type; an object has its declared type. -/
def typeName : Value → String
  | null => "null"
  | bool _ => "bool"
  | int _ => "int"
  | float _ => "float"
  | string _ => "str"
  | list _ => "list"
  | object nominal => nominal.typeName

instance : Coe Bool Value := ⟨bool⟩
instance : Coe Int64 Value := ⟨int⟩
instance : Coe Int32 Value := ⟨fun value => int value.toInt64⟩
instance : Coe Binary64 Value := ⟨float⟩
instance : Coe String Value := ⟨string⟩
instance : Coe (List Value) Value := ⟨list⟩

end Value

end Motif
