import Motif.Proofs.Matching
import Motif.Proofs.Number.Equality

/-!
Equal values are matched alike.

Whatever accepts a value accepts every value equal to it, and binds the same names to equal values.
-/

namespace Motif

/-- Equal values in the same places. -/
abbrev AllEqual : List Value → List Value → Prop :=
  List.Forall₂ fun own other => (own == other) = true

namespace Value

/-- The ways in which two values can be equal. -/
inductive Equals : Value → Value → Prop
  | null : Equals .null .null
  | bool (value : Bool) : Equals (.bool value) (.bool value)
  | int (value : Int64) : Equals (.int value) (.int value)
  | float {own other : Binary64} (same : (own == other) = true) :
      Equals (.float own) (.float other)
  | string (text : String) : Equals (.string text) (.string text)
  | list {items others : List Value} (same : AllEqual items others) :
      Equals (.list items) (.list others)
  | object {own other : Nominal Value} (same : own.identity = other.identity) :
      Equals (.object own) (.object other)

/-- The test for lists compares elements in the same places. -/
theorem equalAll_iff {items others : List Value} :
    equalAll items others = true ↔ AllEqual items others := by
  -- Lists of two lengths differ at the end of the shorter one.
  induction items generalizing others with
  | nil => cases others <;> simp [equalAll]
  | cons item items ih =>
    cases others with
    | nil => simp [equalAll]
    | cons other others =>
      simp only [equalAll, Bool.and_eq_true, ih, AllEqual, List.forall₂_cons]
      rfl

/-- The equality test is passed in these ways and in no other. -/
theorem beq_iff_equals {left right : Value} : (left == right) = true ↔ left.Equals right := by
  show equal left right = true ↔ _
  constructor
  · intro same
    fun_cases equal left right with
    | case1 => exact .null
    | case2 own other =>
      obtain rfl : own = other := by simpa [equal] using same
      exact .bool own
    | case3 own other =>
      obtain rfl : own = other := by simpa [equal] using same
      exact .int own
    | case4 own other => exact .float (by simpa [equal] using same)
    | case5 own other =>
      obtain rfl : own = other := by simpa [equal] using same
      exact .string own
    | case6 items others => exact .list (equalAll_iff.mp (by simpa [equal] using same))
    | case7 own other => exact .object (by simpa [equal] using same)
    -- Values of two kinds are never equal.
    | case8 => simp [equal] at same
  · intro same
    cases same with
    | null | bool | int | string => simp [equal]
    | float same => simpa [equal] using same
    | list same => simpa [equal] using equalAll_iff.mpr same
    | object same => simpa [equal] using same

end Value

/-- A value of a world where every identity belongs to one object and so has one type name. -/
structure TypedValue (typeNames : Nat → String) where
  value : Value
  /-- Objects inside of lists are never matched by type, so only the value itself counts. -/
  named : ∀ nominal, value = .object nominal → nominal.typeName = typeNames nominal.identity

namespace TypedValue

/-- Equal values of one world have one type name, if they are objects. -/
theorem typeName_eq {typeNames : Nat → String} (left right : TypedValue typeNames)
    {own other : Nominal Value} (first : left.value = .object own)
    (second : right.value = .object other) (same : own.identity = other.identity) :
    own.typeName = other.typeName := by
  -- Both names are the one that goes with the identity they share.
  rw [left.named own first, right.named other second, same]

/-- Two values that do not name one object differently are values of one world. -/
theorem exists_world {left right : Value}
    (coherent : ∀ own other : Nominal Value, left = .object own → right = .object other →
      own.identity = other.identity → own.typeName = other.typeName) :
    ∃ (typeNames : Nat → String) (own other : TypedValue typeNames),
      own.value = left ∧ other.value = right := by
  -- The world names the first object as that is named, and all others as the second value.
  let names (identity : Nat) : String :=
    if left.asObject?.any fun own => own.identity == identity then left.typeName
    else right.typeName
  refine ⟨names, ⟨left, ?_⟩, ⟨right, ?_⟩, rfl, rfl⟩
  · rintro nominal rfl
    simp [names, Value.asObject?, Value.typeName]
  · rintro nominal rfl
    cases left with
    | object own =>
      by_cases same : own.identity = nominal.identity
      · simpa [names, Value.asObject?, Value.typeName, same] using
          (coherent own nominal rfl rfl same).symm
      · simp [names, Value.asObject?, Value.typeName, same]
    | null | bool | int | float | string | list => simp [names, Value.asObject?, Value.typeName]

end TypedValue

namespace Bindings

/-- The same names, with equal values. -/
structure Alike (first second : Bindings) : Prop where
  names : first.names = second.names
  values : AllEqual first.values second.values

/-- Nothing is bound like nothing. -/
theorem Alike.empty : Alike empty empty := ⟨rfl, .nil⟩

/-- One name is bound alike to equal values. -/
theorem Alike.single (name : String) {left right : Value} (same : (left == right) = true) :
    Alike (single name left) (single name right) :=
  ⟨rfl, .cons same .nil⟩

/-- Parts that are bound alike are so together. -/
theorem Alike.append {first second front back : Bindings} (before : Alike first front)
    (behind : Alike second back) : Alike (first ++ second) (front ++ back) := by
  -- Names and values of the parts stand one behind the other.
  refine ⟨?_, ?_⟩
  · rw [names_append, names_append, before.names, behind.names]
  · simp only [Bindings.values, entries_append, List.map_append]
    exact List.rel_append before.values behind.values

/-- Names that are paired with equal elements are bound alike. -/
theorem Alike.zip (names : List String) {items others : List Value}
    (same : AllEqual items others) : Alike ⟨names.zip items⟩ ⟨names.zip others⟩ := by
  -- Names are paired until they run out or the elements do, which happens on both sides at once.
  induction names generalizing items others with
  | nil => exact .empty
  | cons name names ih =>
    cases same with
    | nil => exact .empty
    | cons first rest => exact (Alike.single name first).append (ih rest)

/-- Two outcomes of a match: both are failures, or both are successes that bind alike. -/
abbrev AlikeIfAny : Option Bindings → Option Bindings → Prop :=
  Option.Rel Alike

/-- A test that is passed on both sides or on neither keeps bindings alike. -/
theorem AlikeIfAny.ite {accepted : Bool} {first second : Bindings} (alike : Alike first second) :
    AlikeIfAny (if accepted then some first else none)
      (if accepted then some second else none) := by
  cases accepted with
  | true => exact .some alike
  | false => exact .none

/-- Two parts in turn are matched alike when each of them is. -/
theorem AlikeIfAny.append {first second front back : Option Bindings}
    (before : AlikeIfAny first front) (behind : AlikeIfAny second back) :
    AlikeIfAny (do return (← first) ++ (← second)) (do return (← front) ++ (← back)) := by
  -- The first failure of a part is one on both sides.
  cases before with
  | none => exact .none
  | some before =>
    cases behind with
    | none => exact .none
    | some behind => exact .some (before.append behind)

end Bindings

open Bindings (Alike AlikeIfAny)

variable {items others : List Value} {left right : Value}

/-- A literal does not tell equal values apart. -/
theorem Literal.accepts_eq (literal : Literal) (same : left.Equals right) :
    literal.accepts left = literal.accepts right := by
  cases same with
  | null | bool | int | string | list | object => rfl
  | float same =>
    -- What equals one of two equal numbers equals the other, also when it is an integer.
    have same : (Number.float _).Same (.float _) := Number.numericEq_iff.mp same
    simp only [accepts, matchesFloat, matchesNumber, same.numericEq_eq]

/-- A tail binds equal lists alike. -/
theorem Tail.bind_alike (tail : Tail) (same : AllEqual items others) :
    Alike (tail.bind items) (tail.bind others) := by
  -- A name keeps the whole rest, and an underscore none of it.
  cases tail with
  | binder name => exact .single name (Value.beq_iff_equals.mpr (.list same))
  | wildcard => exact .empty

/-- A cons pattern takes equal lists apart alike. -/
theorem ConsPattern.bind?_alike (parts : ConsPattern) (same : AllEqual items others) :
    AlikeIfAny (parts.bind? items) (parts.bind? others) := by
  -- Lists of equal elements are of one length, so they are both long enough or neither.
  unfold bind?
  rw [same.length_eq]
  split
  · exact .none
  · exact .some ((Alike.zip _ same).append (parts.tail.bind_alike (List.forall₂_drop _ same)))

namespace Slot

/-- A slot accepts equal elements alike. -/
theorem bind?_alike (slot : Slot) (same : left.Equals right) :
    AlikeIfAny (slot.bind? left) (slot.bind? right) := by
  cases slot with
  | wildcard => exact .some .empty
  | binder name => exact .some (.single name (Value.beq_iff_equals.mpr same))
  | literal value =>
    -- A literal binds nothing, so it only has to accept both or neither.
    rw [bind?, bind?, value.accepts_eq same]
    exact .ite .empty
  | cons parts =>
    cases same with
    | list same => exact parts.bind?_alike same
    -- Nothing but a list has parts for a cons pattern.
    | null | bool | int | float | string | object => exact .none

/-- Slots accept equal elements in their places alike. -/
theorem bindAll?_alike (slots : List Slot) (same : AllEqual items others) :
    AlikeIfAny (bindAll? slots items) (bindAll? slots others) := by
  -- Slot by slot, the first that fails does so on both sides.
  induction slots generalizing items others with
  | nil => exact .some .empty
  | cons slot slots ih =>
    cases same with
    | nil => exact .some .empty
    | cons first rest =>
      exact (slot.bind?_alike (Value.beq_iff_equals.mp first)).append (ih rest)

end Slot

namespace Pattern

/-- Patterns match equal values of one world alike, under either rule for lengths. -/
theorem matchBy?_alike {typeNames : Nat → String} (rule : LengthRule) (pattern : Pattern)
    (left right : TypedValue typeNames) (same : left.value.Equals right.value) :
    AlikeIfAny (pattern.matchBy? rule left.value) (pattern.matchBy? rule right.value) := by
  -- Only type tags look at type names, and there the world tells them to be the same.
  have named : ∀ own other : Nominal Value, left.value = .object own →
      right.value = .object other → own.identity = other.identity →
      own.typeName = other.typeName := fun _ _ => left.typeName_eq right
  generalize left.value = left at same named ⊢
  generalize right.value = right at same named ⊢
  cases pattern with
  | wildcard => exact .some .empty
  | literal own =>
    rw [matchBy?, matchBy?, own.accepts_eq same]
    exact .ite .empty
  | cons parts =>
    cases same with
    | list same => exact parts.bind?_alike same
    | null | bool | int | float | string | object => exact .none
  | list slots =>
    cases same with
    | list same =>
      -- Lists of equal elements have one length, so both of them fit or neither does.
      rw [matchBy?, matchBy?, same.length_eq]
      split
      · exact Slot.bindAll?_alike slots same
      · exact .none
    | null | bool | int | float | string | object => exact .none
  | typeTag name =>
    cases same with
    | object same =>
      rw [matchBy?, matchBy?, named _ _ rfl rfl same]
      exact .ite .empty
    | null | bool | int | float | string | list => exact .none

/--
Equal values are matched alike: both are refused, or both bind the same names to equal values.

This holds of matching the whole value and of matching its front, in any world where an identity has
one type name: two values that do not name one object differently always have such a world. Zeros of
both signs are equal, and so are lists of equal elements, so a literal tells no zeros apart however
deep they lie.
-/
theorem equal_values_are_matched_alike :
    (∀ (typeNames : Nat → String) (pattern : Pattern) (left right : TypedValue typeNames),
      (left.value == right.value) = true →
        Option.Rel Alike (pattern.match? left.value) (pattern.match? right.value) ∧
          Option.Rel Alike (pattern.matchFront? left.value) (pattern.matchFront? right.value)) ∧
    (∀ left right : Value,
      (∀ own other : Nominal Value, left = .object own → right = .object other →
        own.identity = other.identity → own.typeName = other.typeName) →
      ∃ (typeNames : Nat → String) (own other : TypedValue typeNames),
        own.value = left ∧ other.value = right) ∧
    (∀ (literal : Literal) (left right : Value), (left == right) = true →
      literal.accepts left = literal.accepts right) ∧
    (∀ (leftSign rightSign : Bool) (zero : Magnitude), zero.units = 0 →
      (Value.float (.finite leftSign zero) == .float (.finite rightSign zero)) = true) ∧
    ∀ items others : List Value, AllEqual items others →
      (Value.list items == .list others) = true := by
  refine ⟨?_, fun _ _ => TypedValue.exists_world, ?_, ?_, ?_⟩
  · intro typeNames pattern left right same
    -- Both ways to match are the one match under its two rules.
    have same := Value.beq_iff_equals.mp same
    exact ⟨matchBy?_alike .exact pattern left right same,
      matchBy?_alike .openEnded pattern left right same⟩
  · intro literal left right same
    exact literal.accepts_eq (Value.beq_iff_equals.mp same)
  · intro leftSign rightSign zero none
    -- Both zeros hold no unit at all.
    refine Value.beq_iff_equals.mpr (.float ?_)
    show Binary64.equal _ _ = true
    simp [Binary64.equal, Binary64.units?, none]
  · intro items others same
    exact Value.beq_iff_equals.mpr (.list same)

/-- Zeros of other signs, in a list and in one within it, and an object that is matched by type. -/
theorem equal_values_are_matched_alike_of_zeros :
    let zero : Magnitude := ⟨0, 0, by decide, by decide, .inl rfl⟩
    let plus : Value := .float (.finite false zero)
    let minus : Value := .float (.finite true zero)
    let object : Value := .object ⟨7, "IO", .null, "IO"⟩
    let left : Value := .list [plus, .list [minus, object]]
    let right : Value := .list [minus, .list [plus, object]]
    let pattern : Pattern := .list [.literal (.quoted "0"), .cons ⟨["x"], .binder "xs"⟩]
    (left == right) = true ∧ (pattern.match? left).isSome = true ∧
      Option.Rel Alike (pattern.match? left) (pattern.match? right) ∧
      (object == object) = true ∧
      Option.Rel Alike ((typeTag "M::IO").match? object) ((typeTag "M::IO").match? object) ∧
      zero.units = 0 ∧ (plus == minus) = true ∧
      (Literal.quoted "0").accepts plus = (Literal.quoted "0").accepts minus ∧
      AllEqual [plus, object] [minus, object] ∧
      (Value.list [plus, object] == .list [minus, object]) = true := by
  intro zero plus minus object left right pattern
  obtain ⟨values, worlds, literals, zeros, lists⟩ := equal_values_are_matched_alike
  have whole : (left == right) = true := by decide +kernel
  have itself : (object == object) = true := by decide +kernel
  have equal : (plus == minus) = true := zeros false true zero rfl
  have pairs : AllEqual [plus, object] [minus, object] := .cons equal (.cons itself .nil)
  -- Lists are no objects, and the object is named alike on both sides.
  obtain ⟨_, own, other, first, second⟩ := worlds left right fun _ _ first => by
    have never : Value.list _ = .object _ := first
    cases never
  obtain ⟨_, same, copy, this, that⟩ := worlds object object fun _ _ first second _ => by
    rw [← Value.object.inj first, ← Value.object.inj second]
  have lists' := (values _ pattern own other (by rw [first, second]; exact whole)).1
  have objects := (values _ (typeTag "M::IO") same copy (by rw [this, that]; exact itself)).1
  rw [first, second] at lists'
  rw [this, that] at objects
  exact ⟨whole, by decide +kernel, lists', itself, objects, rfl, equal, literals _ _ _ equal, pairs,
    lists _ _ pairs⟩

end Pattern

end Motif
