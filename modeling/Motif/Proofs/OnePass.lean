import Mathlib
import Motif.Matching
import Motif.Pattern.Binders

/-!
A pattern is matched in one pass over the value.

The pass looks at the shape of the value first. Then it adds each name to those that are bound
already, and ends at the first part that fails.
-/

namespace Motif

namespace Bindings

/-- One more name, behind those that are bound. -/
def push (bindings : Bindings) (name : String) (value : Value) : Bindings :=
  ⟨bindings.entries ++ [(name, value)]⟩

/-- A name that is pushed is a part of its own behind all others. -/
theorem push_eq_append (bindings : Bindings) (name : String) (value : Value) :
    bindings.push name value = bindings ++ single name value :=
  rfl

/-- Nothing changes when nothing is bound behind. -/
theorem append_empty (bindings : Bindings) : bindings ++ empty = bindings :=
  congrArg Bindings.mk (List.append_nil _)

/-- Three parts are in the same order however they are put together. -/
theorem append_assoc (first second third : Bindings) :
    first ++ second ++ third = first ++ (second ++ third) :=
  congrArg Bindings.mk (List.append_assoc ..)

/-- What is bound once a part was matched, and whether the part accepts at all. -/
def after (bindings : Bindings) (part : Option Bindings) : Bool × Bindings :=
  (part.isSome, part.elim bindings (bindings ++ ·))

end Bindings

namespace ConsPattern

/-- Pushes heads and tail, if there are as many elements as heads. -/
def bindOnto (parts : ConsPattern) (items : List Value) (bindings : Bindings) : Bool × Bindings :=
  if items.length < parts.heads.length then (false, bindings)
  else
    let split := items.splitAt parts.heads.length
    let pairs := parts.heads.zip split.1
    let headed := pairs.foldl (fun bindings pair => bindings.push pair.1 pair.2) bindings
    match parts.tail with
    | .binder name => (true, headed.push name (.list split.2))
    | .wildcard => (true, headed)

/-- Names that are pushed one after another come behind all that is bound. -/
theorem foldl_push (pairs : List (String × Value)) (bindings : Bindings) :
    pairs.foldl (fun bindings pair => bindings.push pair.1 pair.2) bindings =
      bindings ++ ⟨pairs⟩ := by
  -- The first pair goes behind what is bound, and all others behind both.
  induction pairs generalizing bindings with
  | nil => exact bindings.append_empty.symm
  | cons pair pairs ih =>
    rw [List.foldl_cons, ih, Bindings.push_eq_append, Bindings.append_assoc]
    rfl

/-- A name is paired with the element in its place, so elements behind all names do not count. -/
theorem zip_take (names : List String) (items : List Value) :
    names.zip (items.take names.length) = names.zip items := by
  -- Names run out no later among the elements in front than among all of them.
  induction names generalizing items with
  | nil => rfl
  | cons name names ih =>
    cases items with
    | nil => rfl
    | cons item items => exact congrArg ((name, item) :: ·) (ih items)

/-- A cons pattern pushes what it binds by itself. -/
theorem bindOnto_eq (parts : ConsPattern) (items : List Value) (bindings : Bindings) :
    parts.bindOnto items bindings = bindings.after (parts.bind? items) := by
  unfold bindOnto bind?
  by_cases short : items.length < parts.heads.length
  · simp [short, Bindings.after]
  · simp only [if_neg short, List.splitAt_eq, foldl_push, zip_take]
    -- The tail stands behind the heads, whichever of the two kinds it is.
    cases parts.tail with
    | binder name =>
      simp [Bindings.after, Tail.bind, Bindings.push_eq_append, Bindings.append_assoc]
    | wildcard => simp [Bindings.after, Tail.bind, Bindings.append_empty]

end ConsPattern

namespace Slot

/-- Pushes what a slot binds, if it accepts the element. -/
def bindOnto (slot : Slot) (item : Value) (bindings : Bindings) : Bool × Bindings :=
  match slot with
  | wildcard => (true, bindings)
  | literal value => (value.accepts item, bindings)
  | binder name => (true, bindings.push name item)
  | cons parts =>
    match item.asList? with
    | some items => parts.bindOnto items bindings
    | none => (false, bindings)

/-- Passes over slots and elements side by side, up to the first slot that fails. -/
def pass? : List (Slot × Value) → Bindings → Option Bindings
  | [], bindings => some bindings
  | (slot, item) :: pairs, bindings =>
    let bound := slot.bindOnto item bindings
    if bound.1 then pass? pairs bound.2 else none

/-- Whether a slot is a wildcard. -/
def isWildcard : Slot → Bool
  | wildcard => true
  | literal _ | binder _ | cons _ => false

/-- Passes over a list of a length that the slots allow. -/
def passList? (rule : LengthRule) (slots : List Slot) (items : List Value) : Option Bindings :=
  let openEnded := rule == .openEnded && slots.getLast?.any isWildcard
  let allowed :=
    if openEnded then decide (slots.length ≤ items.length) else items.length == slots.length
  if allowed then pass? (slots.zip items) .empty else none

/-- A slot pushes what it binds by itself. -/
theorem bindOnto_eq (slot : Slot) (item : Value) (bindings : Bindings) :
    slot.bindOnto item bindings = bindings.after (slot.bind? item) := by
  cases slot with
  | wildcard => simp [bindOnto, bind?, Bindings.after, Bindings.append_empty]
  | literal value =>
    -- Whether the literal accepts or not, nothing is pushed.
    cases accepted : value.accepts item <;>
      simp [bindOnto, bind?, Bindings.after, accepted, Bindings.append_empty]
  | binder name => rfl
  | cons parts =>
    cases item with
    | list items => exact parts.bindOnto_eq items bindings
    | null | bool | int | float | string | object => rfl

/-- A pass adds to what is bound all that the slots bind, or fails where they do. -/
theorem pass?_eq (slots : List Slot) (items : List Value) (bindings : Bindings) :
    pass? (slots.zip items) bindings = (bindAll? slots items).map (bindings ++ ·) := by
  -- What the slots in front have pushed is the start for those behind them.
  induction slots generalizing items bindings with
  | nil => simp [pass?, bindAll?, Bindings.append_empty]
  | cons slot slots ih =>
    cases items with
    | nil => simp [pass?, bindAll?, Bindings.append_empty]
    | cons item items =>
      simp only [List.zip_cons_cons, pass?, bindOnto_eq, bindAll?]
      cases slot.bind? item with
      | none => rfl
      | some own =>
        simp only [Bindings.after, Option.isSome_some, Option.elim_some, ih]
        cases bindAll? slots items <;> simp [Bindings.append_assoc]

/-- A list is passed over as its slots are matched, if it has a length that they allow. -/
theorem passList?_eq (rule : LengthRule) (slots : List Slot) (items : List Value) :
    passList? rule slots items =
      if fit rule slots items.length then bindAll? slots items else none := by
  have passed : pass? (slots.zip items) .empty = bindAll? slots items := by
    rw [pass?_eq]
    cases bindAll? slots items <;> rfl
  have turned : (items.length == slots.length) = (slots.length == items.length) := BEq.comm
  -- Which lengths are allowed depends on nothing but the rule and the last slot.
  unfold passList? fit
  rw [passed, turned]
  cases rule with
  | exact => simp
  | openEnded =>
    cases slots.getLast? with
    | none => simp
    | some last => cases last <;> simp [isWildcard]

end Slot

namespace Pattern

/-- Matches a value in one pass, by the form of the pattern together with the value's shape. -/
def passOver? (rule : LengthRule) (pattern : Pattern) (value : Value) : Option Bindings :=
  match pattern, value.shape with
  | wildcard, _ => some .empty
  | literal own, .scalar => if own.accepts value then some .empty else none
  | cons parts, .sequence => do
    let items ← value.asList?
    let bound := parts.bindOnto items .empty
    if bound.1 then some bound.2 else none
  | list slots, .sequence => do
    let items ← value.asList?
    Slot.passList? rule slots items
  | typeTag name, .nominal => do
    let nominal ← value.asObject?
    if selectsType name nominal.typeName then some .empty else none
  | _, _ => none

/-- One pass over a value matches it. -/
theorem passOver?_eq_matchBy? (rule : LengthRule) (pattern : Pattern) (value : Value) :
    pattern.passOver? rule value = pattern.matchBy? rule value := by
  -- A value of the wrong shape is turned down on both sides, so one shape is left for each form.
  cases pattern with
  | wildcard => rfl
  | literal own => cases value <;> rfl
  | cons parts =>
    cases value with
    | list items =>
      -- A cons pattern starts with nothing bound, so what it pushes is what it binds.
      simp only [passOver?, Value.shape, Value.asList?, parts.bindOnto_eq, matchBy?,
        Option.bind_eq_bind, Option.bind_some]
      cases parts.bind? items <;> rfl
    | null | bool | int | float | string | object => rfl
  | list slots =>
    cases value with
    | list items => exact Slot.passList?_eq rule slots items
    | null | bool | int | float | string | object => rfl
  | typeTag name => cases value <;> rfl

end Pattern

end Motif
