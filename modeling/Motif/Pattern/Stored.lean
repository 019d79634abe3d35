import Motif.Pattern

/-! The stored form of patterns: trees of named parts, from which a pattern can be read back. -/

namespace Motif

/-- A tree of stored data. -/
inductive Stored where
  /-- Nothing. -/
  | null
  /-- A truth value. -/
  | bool (value : Bool)
  /-- An integer of any size. -/
  | integer (value : Int)
  /-- A floating-point number. -/
  | float (value : Binary64)
  /-- A text. -/
  | text (value : String)
  /-- Items in order. -/
  | array (items : List Stored)
  /-- Parts with their names. -/
  | fields (entries : List (String × Stored))
  deriving Inhabited

namespace Stored

/-- A name with its content. -/
def tagged (name : String) (content : Stored) : Stored :=
  fields [(name, content)]

/-- The name and the content of a variant; a bare name stands for one without content. -/
def variant? : Stored → Option (String × Stored)
  | text name => some (name, null)
  | fields [entry] => some entry
  | _ => none

/-- The parts of given names, in their order; a part may be missing, but not be there twice. -/
def parts? (names : List String) : Stored → Option (List (Option Stored))
  -- Parts without names are told by their places, and then none may be missing.
  | array items => if items.length = names.length then some (items.map some) else none
  | fields entries =>
    -- Parts of other names are passed over.
    names.mapM fun name =>
      match entries.filter fun entry => entry.1 == name with
      | [] => some none
      | [entry] => some (some entry.2)
      | _ => none
  | _ => none

/-- The text that a tree is, if it is one. -/
def text? : Stored → Option String
  | text value => some value
  | _ => none

/-- The floating-point number that a tree is; a whole one may be stored as an integer. -/
def binary64? (stored : Stored) : Option Binary64 :=
  let nearest? := match stored with
    | float value => some value
    | integer value => some (.ofInt value)
    | _ => none
  -- What is not finite cannot be written as a number.
  nearest?.filter Binary64.isFinite

end Stored

namespace Number

/-- The stored form of a number; one that is not finite is lost. -/
def toStored : Number → Stored
  -- Nothing is stored in place of an infinity, and nothing reads back as a number.
  | int value => .tagged "Int" (.integer value.toInt)
  | float value => .tagged "Float" (if value.isFinite then .float value else .null)

/-- Reads a number back. -/
def ofStored? (stored : Stored) : Option Number :=
  match stored.variant? with
  | some ("Int", .integer value) =>
    -- An integer of more than 64 bits is no number of a literal.
    if Int64.minValue.toInt ≤ value ∧ value ≤ Int64.maxValue.toInt then
      some (int (Int64.ofInt value))
    else none
  | some ("Float", content) => content.binary64?.map float
  | _ => none

end Number

namespace Literal

/-- The stored form of a literal. -/
def toStored (literal : Literal) : Stored :=
  .fields [
    ("text", .text literal.text),
    ("number", (literal.number.map Number.toStored).getD .null),
    ("quoted", .bool literal.isQuoted)]

/-- Reads a literal back as it was given, even with a number that its text does not write. -/
def ofStored? (stored : Stored) : Option Literal :=
  match stored.parts? ["text", "number", "quoted"] with
  | some [some (.text text), number, some (.bool isQuoted)] =>
    -- The number may be left out, but a number that is there has to be readable.
    match number with
    | none | some .null => some ⟨text, none, isQuoted⟩
    | some content => (Number.ofStored? content).map fun own => ⟨text, some own, isQuoted⟩
  | _ => none

end Literal

namespace Tail

/-- The stored form of a tail. -/
def toStored : Tail → Stored
  | binder name => .tagged "Binder" (.text name)
  | wildcard => .text "Wildcard"

/-- Reads a tail back. -/
def ofStored? (stored : Stored) : Option Tail :=
  match stored.variant? with
  | some ("Wildcard", .null) => some wildcard
  | some ("Binder", .text name) => some (binder name)
  | _ => none

end Tail

namespace ConsPattern

/-- The stored form of a cons pattern. -/
def toStored (cons : ConsPattern) : Stored :=
  .fields [("heads", .array (cons.heads.map Stored.text)), ("tail", cons.tail.toStored)]

/-- Reads a cons pattern back. -/
def ofStored? (stored : Stored) : Option ConsPattern :=
  match stored.parts? ["heads", "tail"] with
  | some [some (.array heads), some tail] => do
    return ⟨← heads.mapM Stored.text?, ← Tail.ofStored? tail⟩
  | _ => none

end ConsPattern

namespace Slot

/-- The stored form of a slot. -/
def toStored : Slot → Stored
  | literal value => .tagged "Literal" value.toStored
  | binder name => .tagged "Binder" (.text name)
  | wildcard => .text "Wildcard"
  | cons parts => .tagged "Cons" parts.toStored

/-- Reads a slot back. -/
def ofStored? (stored : Stored) : Option Slot :=
  match stored.variant? with
  | some ("Wildcard", .null) => some wildcard
  | some ("Literal", content) => (Literal.ofStored? content).map literal
  | some ("Binder", .text name) => some (binder name)
  | some ("Cons", content) => (ConsPattern.ofStored? content).map cons
  | _ => none

end Slot

namespace Pattern

/-- The stored form of a pattern. -/
def toStored : Pattern → Stored
  | wildcard => .text "Wildcard"
  | literal value => .tagged "Literal" value.toStored
  | cons parts => .tagged "Cons" parts.toStored
  | list slots => .tagged "List" (.array (slots.map Slot.toStored))
  | typeTag name => .tagged "TypeTag" (.text name)

/-- Reads a pattern back. -/
def ofStored? (stored : Stored) : Option Pattern :=
  match stored.variant? with
  | some ("Wildcard", .null) => some wildcard
  | some ("Literal", content) => (Literal.ofStored? content).map literal
  | some ("Cons", content) => (ConsPattern.ofStored? content).map cons
  | some ("List", .array items) => (items.mapM Slot.ofStored?).map list
  | some ("TypeTag", .text name) => some (typeTag name)
  | _ => none

end Pattern

end Motif
