import Motif.Proofs.EqualValues
import Motif.Proofs.Leaves

/-!
Equality of values is symmetric and transitive, and a value equals itself unless it holds a `nan`.

Where a value is stored plays no part. Objects are equal when they are one and the same.
-/

namespace Motif

/-- Objects made one after another, each with the next identity instead of the one it had. -/
def Nominal.madeFrom {α : Type} (next : Nat) (plans : List (Nominal α)) : List (Nominal α) :=
  plans.mapIdx fun index plan => { plan with identity := next + index }

/-- Values held one after another, each in a place of its own. -/
def Placed.madeFrom (next : Nat) (values : List Value) : List Placed :=
  values.mapIdx fun index value => ⟨next + index, value⟩

namespace Value

variable {left right first second third value part : Value} {items others : List Value}

/-- Some value stands at some place in another. -/
def Holds (value part : Value) : Prop :=
  ∃ place, value.part? place = some part

/-- A value that is no list holds nothing but itself. -/
theorem holds_iff_of_bare (bare : value.asList? = none) : value.Holds part ↔ value = part := by
  -- Any place but the one that goes nowhere goes into a list.
  constructor
  · rintro ⟨place, stands⟩
    cases place with
    | nil => exact Option.some.inj stands
    | cons index inner => simp [part?_of_bare bare] at stands
  · rintro rfl
    exact ⟨[], rfl⟩

/-- A list holds itself and what its elements hold. -/
theorem list_holds_iff :
    (list items).Holds part ↔ list items = part ∨ ∃ item ∈ items, item.Holds part := by
  -- The first number of a place says which element it goes into.
  constructor
  · rintro ⟨place, stands⟩
    cases place with
    | nil => exact .inl (Option.some.inj stands)
    | cons index inner =>
      obtain ⟨item, found, behind⟩ := Option.bind_eq_some_iff.mp stands
      exact .inr ⟨item, List.mem_of_getElem? found, inner, behind⟩
  · rintro (rfl | ⟨item, member, inner, behind⟩)
    · exact ⟨[], rfl⟩
    · obtain ⟨index, found⟩ := List.mem_iff_getElem?.mp member
      exact ⟨index :: inner, Option.bind_eq_some_iff.mpr ⟨item, found, behind⟩⟩

/-- Lists are equal when their elements are. -/
theorem list_beq_list_iff : (list items == list others) = true ↔ AllEqual items others := by
  -- They are compared pair by pair, which takes equal lengths.
  show equal (list items) (list others) = true ↔ _
  rw [equal, equalAll_iff]

/-- Objects are equal when they have one identity. -/
theorem object_beq_object_iff {own other : Nominal Value} :
    (object own == object other) = true ↔ own.identity = other.identity := by
  -- Nothing else of an object is compared.
  show equal (object own) (object other) = true ↔ _
  rw [equal, beq_iff_eq]

/-- Equality is symmetric. -/
theorem Equals.symm (same : left.Equals right) : right.Equals left := by
  -- The first value has the form of the second one, so the induction is on either of them.
  induction left using nestedInduction generalizing right with
  | leaf left bare =>
    cases same with
    | null => exact .null
    | bool value => exact .bool value
    | int value => exact .int value
    | float same =>
      have same : (Number.float _).Same (.float _) := Number.numericEq_iff.mp same
      exact .float (Number.numericEq_iff.mpr same.symm)
    | string text => exact .string text
    | list same => cases bare
    | object same => exact .object same.symm
  | list items ih =>
    cases same with
    | list same =>
      -- Equality of elements turns around because it does for each element on its own.
      have turned := (List.forall₂_and_left _ _).mpr ⟨ih, same⟩
      refine .list (.flip (turned.imp ?_))
      rintro item other ⟨turn, equal⟩
      exact beq_iff_equals.mpr (turn (beq_iff_equals.mp equal))

/-- Equality of lists is transitive where it is for the elements of the first. -/
theorem allEqual_trans {thirds : List Value}
    (each : ∀ item ∈ items, ∀ {other third : Value}, item.Equals other → other.Equals third →
      item.Equals third)
    (before : AllEqual items others) (behind : AllEqual others thirds) :
    AllEqual items thirds := by
  -- The first two lists go in step, and so do the last two.
  induction before generalizing thirds with
  | nil =>
    cases behind
    exact .nil
  | cons own _ ih =>
    obtain ⟨front, rest⟩ := List.forall_mem_cons.mp each
    cases behind with
    | cons next behind =>
      have same := front (beq_iff_equals.mp own) (beq_iff_equals.mp next)
      exact .cons (beq_iff_equals.mpr same) (ih rest behind)

/-- Equality is transitive. -/
theorem Equals.trans (before : first.Equals second) (behind : second.Equals third) :
    first.Equals third := by
  -- The first value decides in which way the two others are equal to it.
  induction first using nestedInduction generalizing second third with
  | leaf first bare =>
    cases before with
    | null | bool | int | string => exact behind
    | float own =>
      cases behind with
      | float next =>
        have own : (Number.float _).Same (.float _) := Number.numericEq_iff.mp own
        have next : (Number.float _).Same (.float _) := Number.numericEq_iff.mp next
        exact .float (Number.numericEq_iff.mpr (own.trans next))
    | list own => cases bare
    | object own =>
      cases behind with
      | object next => exact .object (own.trans next)
  | list items ih =>
    cases before with
    | list before =>
      cases behind with
      | list behind => exact .list (allEqual_trans ih before behind)

/-- A value equals itself unless it holds a number that does not. -/
theorem beq_self_iff (value : Value) : (value == value) = true ↔ ¬ value.Holds (.float .nan) := by
  -- A list is compared with itself element by element, so it passes where all of them do.
  induction value using nestedInduction with
  | leaf value bare =>
    rw [holds_iff_of_bare bare]
    cases value with
    | float number =>
      have number : (Number.float number).numericEq (.float number) = true ↔ _ :=
        Number.numericEq_iff.trans Number.same_self_iff
      rw [float.injEq, ← Number.float.injEq]
      exact number
    | list items => cases bare
    | null | bool | int | string | object =>
      simp [beq_iff_equals, Equals.null, Equals.bool, Equals.int, Equals.string, Equals.object]
  | list items ih =>
    rw [list_beq_list_iff, AllEqual, List.forall₂_same, list_holds_iff]
    constructor
    · rintro each (never | ⟨item, member, holds⟩)
      · cases never
      · exact (ih item member).mp (each item member) holds
    · intro clear item member
      exact (ih item member).mpr fun holds => clear (.inr ⟨item, member, holds⟩)

/-- Two values that are equal, or none and none. -/
abbrev EqualIfAny : Option Value → Option Value → Prop :=
  Option.Rel fun own other => (own == other) = true

/-- Going on from equal values leads to equal values, or from none to none. -/
theorem EqualIfAny.bind {own other : Option Value} {ofOwn ofOther : Value → Option Value}
    (same : EqualIfAny own other)
    (each : ∀ {item partner : Value}, (item == partner) = true →
      EqualIfAny (ofOwn item) (ofOther partner)) :
    EqualIfAny (own.bind ofOwn) (other.bind ofOther) := by
  -- Either both sides go on or neither does.
  cases same with
  | none => exact .none
  | some equal => exact each equal

/-- Equal lists have equal elements in each place, or none. -/
theorem equalIfAny_getElem? (same : AllEqual items others) (index : Nat) :
    EqualIfAny items[index]? others[index]? := by
  -- The lists are as long as each other, so one ends where the other does.
  induction same generalizing index with
  | nil => exact .none
  | cons own _ ih =>
    cases index with
    | zero => exact .some own
    | succ index => simpa using ih index

/-- At any place stand equal values in both of two equal values, or none in either. -/
theorem Equals.part? (same : left.Equals right) (place : List Nat) :
    EqualIfAny (left.part? place) (right.part? place) := by
  -- Places go into lists only, and equal lists have equal elements.
  induction place generalizing left right with
  | nil => exact .some (beq_iff_equals.mpr same)
  | cons index inner ih =>
    cases same with
    | list same =>
      rw [part?_list, part?_list]
      exact (equalIfAny_getElem? same index).bind fun equal => ih (beq_iff_equals.mp equal)
    | null | bool | int | float | string | object => exact .none

/-- Objects made separately are equal only to themselves, whatever they are made with. -/
theorem beq_of_madeFrom {next index place : Nat} {plans : List (Nominal Value)}
    {own other : Nominal Value} (found : (Nominal.madeFrom next plans)[index]? = some own)
    (another : (Nominal.madeFrom next plans)[place]? = some other) :
    (object own == object other) = true ↔ index = place := by
  -- The identities of two objects are as far apart as their places.
  rw [Nominal.madeFrom, List.getElem?_mapIdx] at found another
  obtain ⟨plan, -, rfl⟩ := Option.map_eq_some_iff.mp found
  obtain ⟨copy, -, rfl⟩ := Option.map_eq_some_iff.mp another
  rw [object_beq_object_iff]
  exact Nat.add_left_cancel_iff

/-- Lists held separately share a place only with themselves, and then are one list. -/
theorem same?_of_madeFrom {next index place : Nat} {values : List Value} {own other : Placed}
    (found : (Placed.madeFrom next values)[index]? = some own)
    (another : (Placed.madeFrom next values)[place]? = some other)
    (first : own.value = .list items) (second : other.value = .list others) :
    own.same? other = some (index == place) ∧ (index = place → items = others) := by
  -- A place tells how many values were held before, so it tells which value it holds.
  rw [Placed.madeFrom, List.getElem?_mapIdx] at found another
  obtain ⟨value, stands, rfl⟩ := Option.map_eq_some_iff.mp found
  obtain ⟨copy, beside, rfl⟩ := Option.map_eq_some_iff.mp another
  obtain rfl : value = .list items := first
  obtain rfl : copy = .list others := second
  constructor
  · simp [Placed.same?]
  · rintro rfl
    exact list.inj (Option.some.inj (stands.symm.trans beside))

/--
Equality is symmetric and transitive, and a value equals itself exactly when it holds no `nan`.

So a list may differ from its own copy, although both are one and the same, since it is compared
with it element by element. Where lists are held plays no part in that: two of them in places of
their own may be equal, and one is compared with its copy as with any other. Objects are equal when
they have one identity, whatever they wrap: an object equals itself and none that is made
separately. Hence equal values have the same objects at the same places.
-/
theorem equality_fails_only_at_nan :
    (∀ left right : Value, (left == right) = (right == left)) ∧
    (∀ first second third : Value, (first == second) = true → (second == third) = true →
      (first == third) = true) ∧
    (∀ value : Value, (value == value) = true ↔ ¬ value.Holds (.float .nan)) ∧
    (∀ (place : Nat) (items : List Value),
      let own : Placed := ⟨place, .list items⟩
      own.same? own = some true ∧
        ((own.value == own.value) = true ↔ ∀ item ∈ items, (item == item) = true)) ∧
    (∀ (next index place : Nat) (values : List Value) (own other : Placed)
      (items others : List Value),
      (Placed.madeFrom next values)[index]? = some own →
        (Placed.madeFrom next values)[place]? = some other →
          own.value = .list items → other.value = .list others →
            own.same? other = some (index == place) ∧ (index = place → items = others) ∧
              ((own.value == other.value) = true ↔ AllEqual items others)) ∧
    (∀ own other : Nominal Value,
      (object own == object other) = true ↔ own.identity = other.identity) ∧
    (∀ (next index place : Nat) (plans : List (Nominal Value)) (own other : Nominal Value),
      (Nominal.madeFrom next plans)[index]? = some own →
        (Nominal.madeFrom next plans)[place]? = some other →
          ((object own == object other) = true ↔ index = place)) ∧
    ∀ left right : Value, (left == right) = true →
      ∀ place, EqualIfAny (left.part? place) (right.part? place) := by
  -- Symmetry and transitivity are those of the relation that equality computes.
  refine ⟨?_, ?_, beq_self_iff, ?_, ?_, fun _ _ => object_beq_object_iff, ?_, ?_⟩
  · intro left right
    rw [Bool.eq_iff_iff, beq_iff_equals, beq_iff_equals]
    exact ⟨Equals.symm, Equals.symm⟩
  · intro first second third before behind
    exact beq_iff_equals.mpr ((beq_iff_equals.mp before).trans (beq_iff_equals.mp behind))
  · intro place items own
    exact ⟨by simp [own, Placed.same?], list_beq_list_iff.trans List.forall₂_same⟩
  · intro next index place values own other items others found another first second
    obtain ⟨places, contents⟩ := same?_of_madeFrom found another first second
    rw [first, second]
    exact ⟨places, contents, list_beq_list_iff⟩
  · intro next index place plans own other found another
    exact beq_of_madeFrom found another
  · intro left right same place
    exact (beq_iff_equals.mp same).part? place

/--
Zeros of both signs, an object around a `nan`, its twin, and a `nan` deep in a list.

A list is held twice in places of its own, and is equal to itself there all the same, while the one
with the `nan` differs from its copy.
-/
theorem equality_fails_only_at_nan_of_zeros :
    let plus : Value := .float (.finite false ⟨0, 0, by decide, by decide, .inl rfl⟩)
    let minus : Value := .float (.finite true ⟨0, 0, by decide, by decide, .inl rfl⟩)
    let plan : Nominal Value := ⟨0, "IO", .float .nan, "IO"⟩
    let own : Nominal Value := { plan with identity := 4 }
    let twin : Nominal Value := { plan with identity := 5 }
    let left : Value := .list [plus, .list [.object own]]
    let middle : Value := .list [minus, .list [.object own]]
    let right : Value := .list [plus, .list [.object { own with content := .null }]]
    let parts : List Value := [.int 1, .list [.float .nan]]
    let broken : Value := .list parts
    let places := Placed.madeFrom 8 [left, broken, left]
    (left == middle) = true ∧ (middle == right) = true ∧ (left == right) = true ∧
      ¬ left.Holds (.float .nan) ∧ broken.Holds (.float .nan) ∧ ¬ (broken == broken) = true ∧
      (Nominal.madeFrom 4 [plan, plan])[0]? = some own ∧
      (Nominal.madeFrom 4 [plan, plan])[1]? = some twin ∧
      ¬ (Value.object own == .object twin) = true ∧
      places[0]? = some ⟨8, left⟩ ∧ places[1]? = some ⟨9, broken⟩ ∧
      places[2]? = some ⟨10, left⟩ ∧
      ((⟨8, left⟩ : Placed).same? ⟨10, left⟩ = some false ∧
        AllEqual [plus, .list [.object own]] [plus, .list [.object own]]) ∧
      ((⟨9, broken⟩ : Placed).same? ⟨9, broken⟩ = some true ∧ ¬ AllEqual parts parts) ∧
      EqualIfAny (left.part? [1, 0]) (right.part? [1, 0]) := by
  intro plus minus plan own twin left middle right parts broken places
  obtain ⟨-, transitive, reflexive, -, held, -, separate, inside⟩ := equality_fails_only_at_nan
  have before : (left == middle) = true := by decide +kernel
  have behind : (middle == right) = true := by decide +kernel
  have whole := transitive _ _ _ before behind
  have holds : broken.Holds (.float .nan) := ⟨[1, 0], rfl⟩
  have one : (Nominal.madeFrom 4 [plan, plan])[0]? = some own := rfl
  have two : (Nominal.madeFrom 4 [plan, plan])[1]? = some twin := rfl
  have front : places[0]? = some ⟨8, left⟩ := rfl
  have within : places[1]? = some ⟨9, broken⟩ := rfl
  have back : places[2]? = some ⟨10, left⟩ := rfl
  have differs : ¬ (broken == broken) = true := fun same => (reflexive broken).mp same holds
  obtain ⟨apart, -, alike⟩ := held 8 0 2 _ _ _ _ _ front back rfl rfl
  obtain ⟨together, -, unlike⟩ := held 8 1 1 _ _ _ _ _ within within rfl rfl
  refine ⟨before, behind, whole, (reflexive left).mp (by decide +kernel), holds, differs, one, two,
    ?_, front, within, back, ⟨apart, alike.mp (by decide +kernel)⟩,
    ⟨together, fun same => differs (unlike.mpr same)⟩, inside left right whole [1, 0]⟩
  intro same
  exact absurd ((separate _ _ _ _ _ _ one two).mp same) (by decide)

end Value

end Motif
