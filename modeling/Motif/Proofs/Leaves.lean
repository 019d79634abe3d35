import Mathlib
import Motif.Collection

/-!
Flattening and changing leaves, for lists nested to any depth.

A place in a nested list is a list of numbers, one for every list that is gone into. Flattening
gives what stands at the places of leaves, in dictionary order of the places.
-/

namespace Motif

namespace Value

/-- What holds for leaves, and for a list if it holds for its elements, holds for every value. -/
@[elab_as_elim]
theorem nestedInduction {motive : Value → Prop}
    (leaf : ∀ value, value.asList? = none → motive value)
    (list : ∀ items, (∀ item ∈ items, motive item) → motive (.list items)) (value : Value) :
    motive value := by
  cases value with
  | list items => exact list items fun item _ => nestedInduction leaf list item
  | null | bool | int | float | string | object => exact leaf _ rfl

/-- What stands at a place in a value; each number of the place tells an element of a list. -/
def part? : Value → List Nat → Option Value
  | value, [] => some value
  | value, index :: place => do
    -- Nothing stands behind a leaf, and nothing beside the elements of a list.
    let items ← value.asList?
    let item ← items[index]?
    item.part? place

variable {value leaf item : Value} {items : List Value} {index : Nat} {place : List Nat}

/-- A place in a list goes into one of its elements. -/
@[simp] theorem part?_list :
    (list items).part? (index :: place) = items[index]?.bind (part? · place) := rfl

/-- Nothing stands within a value that is no list. -/
theorem part?_of_bare (bare : value.asList? = none) : value.part? (index :: place) = none := by
  -- Only a list has elements to go into.
  rw [part?, bare]
  rfl

/-- The leaves of a list are what it is flattened into. -/
@[simp] theorem leaves_list : (list items).leaves = flatten items := by
  -- A list alone is flattened without anything behind it.
  rw [leaves]

/-- A value that is no list is its own leaf. -/
theorem leaves_of_bare (bare : value.asList? = none) : value.leaves = [value] := by
  -- Every constructor but that of lists is left as it is.
  cases value with
  | list items => cases bare
  | null | bool | int | float | string | object => rfl

/-- A list is changed within. -/
@[simp] theorem mapLeaves_list {change : Value → Value} :
    (list items).mapLeaves change = .list (mapDeep change items) := by
  rw [mapLeaves]

/-- A value that is no list is changed itself. -/
theorem mapLeaves_of_bare {change : Value → Value} (bare : value.asList? = none) :
    value.mapLeaves change = change value := by
  -- Every constructor but that of lists is a leaf to be changed.
  cases value with
  | list items => cases bare
  | null | bool | int | float | string | object => rfl

end Value

variable {items others leaves : List Value} {value leaf : Value} {first change : Value → Value}

/-- A list is flattened element by element. -/
theorem flatten_eq_flatMap : flatten items = items.flatMap Value.leaves := by
  induction items with
  | nil => rfl
  | cons item rest ih => rw [flatten, ih, List.flatMap_cons]

/-- A list is changed element by element. -/
theorem mapDeep_eq_map : mapDeep change items = items.map (Value.mapLeaves change) := by
  induction items with
  | nil => rfl
  | cons item rest ih => rw [mapDeep, ih, List.map_cons]

/-- Gathering what is made of each item appends all of it to what was there. -/
theorem fold_append {α : Type} {make : α → List Value} (parts : List α) (start : List Value) :
    fold (fun gathered part => gathered ++ make part) parts start =
      start ++ parts.flatMap make := by
  -- A fold that appends is a flat map behind what it starts with.
  rw [fold, List.foldl_append_eq_append, ← List.flatMap_def]

/-- Flattening gathers one item after the other: a leaf as it is, and a list flattened. -/
theorem flatten_eq_fold :
    flatten items = fold
      (fun gathered item =>
        match item.asList? with
        | some inner => gathered ++ flatten inner
        | none => gathered ++ [item])
      items [] := by
  -- Both cases append the leaves of the item.
  have step : (fun (gathered : List Value) (item : Value) =>
      match item.asList? with
      | some inner => gathered ++ flatten inner
      | none => gathered ++ [item]) = fun gathered item => gathered ++ item.leaves := by
    funext gathered item
    cases item with
    | list inner => rw [Value.leaves_list]; rfl
    | null | bool | int | float | string | object => rw [Value.leaves_of_bare rfl]; rfl
  rw [step, fold_append, List.nil_append, flatten_eq_flatMap]

/-- Appended lists are flattened one after the other. -/
theorem flatten_append : flatten (items ++ others) = flatten items ++ flatten others := by
  -- The elements of both are gone through in order.
  rw [flatten_eq_flatMap, flatten_eq_flatMap, flatten_eq_flatMap, List.flatMap_append]

/-- What is made of each part is flattened part by part. -/
theorem flatten_flatMap {α : Type} {parts : List α} {make : α → List Value} :
    flatten (parts.flatMap make) = parts.flatMap fun part => flatten (make part) := by
  -- Going through parts and then elements is going through all elements.
  simp only [flatten_eq_flatMap, List.flatMap_assoc]

/-- A list of one element is flattened into the leaves of that. -/
theorem flatten_singleton : flatten [value] = value.leaves := by
  -- Behind the one element there is nothing left.
  rw [flatten, flatten, List.append_nil]

/-- Where there is no list, nothing is flattened. -/
theorem flatten_of_bare (bare : ∀ item ∈ items, item.asList? = none) : flatten items = items := by
  -- Each element is its own leaf.
  induction items with
  | nil => rfl
  | cons item rest ih =>
    obtain ⟨own, others⟩ := List.forall_mem_cons.mp bare
    rw [flatten, Value.leaves_of_bare own, ih others, List.singleton_append]

namespace Value

/-- The places of all leaves of a value in dictionary order, with the leaves that stand there. -/
structure LeavesAt (value : Value) (places : List (List Nat)) (leaves : List Value) : Prop where
  /-- Of two places, that one comes first which goes further left where they part. -/
  ordered : places.Pairwise (· < ·)
  stand : places.map value.part? = leaves.map some
  bare : ∀ leaf ∈ leaves, leaf.asList? = none
  complete : ∀ place leaf, value.part? place = some leaf → leaf.asList? = none → place ∈ places

namespace LeavesAt

variable {last : Value} {places front back : List (List Nat)} {items leaves others : List Value}
  {place : List Nat}

/-- At each of the places there is a leaf. -/
theorem exists_of_mem (known : value.LeavesAt places leaves) (member : place ∈ places) :
    ∃ leaf, value.part? place = some leaf ∧ leaf.asList? = none := by
  -- The places and the leaves go together one by one.
  have stands : value.part? place ∈ leaves.map some :=
    known.stand ▸ List.mem_map_of_mem member
  obtain ⟨leaf, inside, same⟩ := List.mem_map.mp stands
  exact ⟨leaf, same.symm, known.bare leaf inside⟩

/-- The places are those at which a leaf stands, and no others. -/
theorem mem_iff (known : value.LeavesAt places leaves) :
    place ∈ places ↔ ∃ leaf, value.part? place = some leaf ∧ leaf.asList? = none := by
  refine ⟨known.exists_of_mem, ?_⟩
  rintro ⟨leaf, stands, bare⟩
  exact known.complete place leaf stands bare

/-- A value has its leaves at these places only, and there is one order for them. -/
theorem unique (known : value.LeavesAt places leaves) (other : value.LeavesAt front others) :
    leaves = others := by
  -- Sorted lists of the same places are the same, and each place has one value.
  have same : places = front :=
    known.ordered.eq_of_mem_iff other.ordered fun place => known.mem_iff.trans other.mem_iff.symm
  have stand : leaves.map some = others.map some := by
    rw [← known.stand, same, other.stand]
  exact List.map_injective_iff.mpr (Option.some_injective _) stand

/-- A place of a leaf in a list goes into one of its elements. -/
theorem exists_cons_of_mem (known : (list items).LeavesAt places leaves)
    (member : place ∈ places) :
    ∃ index inner, place = index :: inner ∧ index < items.length := by
  obtain ⟨leaf, stands, bare⟩ := known.exists_of_mem member
  cases place with
  | nil =>
    -- At the place that goes nowhere stands the list itself.
    obtain rfl := Option.some.inj stands
    cases bare
  | cons index inner =>
    obtain ⟨item, found, -⟩ := Option.bind_eq_some_iff.mp stands
    exact ⟨index, inner, rfl, (List.getElem?_eq_some_iff.mp found).1⟩

/-- A further element puts its leaves behind those of the elements before it. -/
theorem concat (before : (list items).LeavesAt front leaves) (own : last.LeavesAt back others) :
    (list (items ++ [last])).LeavesAt (front ++ back.map (items.length :: ·))
      (leaves ++ others) := by
  -- The places within the earlier elements stay, and those of the last get its number in front.
  have inFront (index : Nat) (inside : index < items.length) (inner : List Nat) :
      (list (items ++ [last])).part? (index :: inner) = (list items).part? (index :: inner) := by
    rw [part?_list, part?_list, List.getElem?_append_left inside]
  have atEnd (inner : List Nat) :
      (list (items ++ [last])).part? (items.length :: inner) = last.part? inner := by
    rw [part?_list, List.getElem?_concat_length]
    rfl
  -- All four parts are shown for the earlier elements and for the last one.
  refine ⟨?_, ?_, ?_, ?_⟩
  · refine List.pairwise_append.mpr ⟨before.ordered, ?_, ?_⟩
    · exact own.ordered.map _ fun _ _ less => List.cons_lt_cons_self.mpr less
    · intro place member other behind
      obtain ⟨index, inner, rfl, inside⟩ := before.exists_cons_of_mem member
      obtain ⟨rest, -, rfl⟩ := List.mem_map.mp behind
      exact List.cons_lt_cons_iff.mpr (.inl inside)
  · rw [List.map_append, List.map_append, ← before.stand, ← own.stand, List.map_map]
    congr 1
    · apply List.map_congr_left
      intro place member
      obtain ⟨index, inner, rfl, inside⟩ := before.exists_cons_of_mem member
      exact inFront index inside inner
    · exact List.map_congr_left fun inner _ => atEnd inner
  · intro leaf member
    rcases List.mem_append.mp member with inside | behind
    · exact before.bare leaf inside
    · exact own.bare leaf behind
  · intro place leaf stands bare
    cases place with
    | nil =>
      obtain rfl := Option.some.inj stands
      cases bare
    | cons index inner =>
      obtain ⟨item, found, -⟩ := Option.bind_eq_some_iff.mp stands
      have least : index < items.length + 1 := by
        simpa using (List.getElem?_eq_some_iff.mp found).1
      rcases Nat.lt_succ_iff_lt_or_eq.mp least with inside | rfl
      · rw [inFront index inside] at stands
        exact List.mem_append_left _ (before.complete _ leaf stands bare)
      · rw [atEnd] at stands
        exact List.mem_append_right _ (List.mem_map_of_mem (own.complete _ leaf stands bare))

end LeavesAt

/-- The leaves of a value are those that stand at the places of leaves. -/
theorem leavesAt_leaves (value : Value) : ∃ places, value.LeavesAt places value.leaves := by
  induction value using nestedInduction with
  | leaf value bare =>
    rw [leaves_of_bare bare]
    -- A leaf stands at the place that goes nowhere, and there is no other place.
    refine ⟨[[]], List.pairwise_singleton _ _, rfl, by simpa using bare, ?_⟩
    intro place leaf stands _
    cases place with
    | nil => exact List.mem_singleton_self _
    | cons index inner => simp [part?_of_bare bare] at stands
  | list items ih =>
    rw [leaves_list]
    -- The leaves of the last element come last, so the list is taken apart from its end.
    induction items using List.reverseRecOn with
    | nil =>
      refine ⟨[], .nil, rfl, by simp [flatten], ?_⟩
      intro place leaf stands bare
      cases place with
      | nil =>
        obtain rfl := Option.some.inj stands
        cases bare
      | cons index inner => simp at stands
    | append_singleton items last before =>
      obtain ⟨front, known⟩ := before fun item member => ih item (by simp [member])
      obtain ⟨back, own⟩ := ih last (by simp)
      rw [flatten_append, flatten_singleton]
      exact ⟨_, known.concat own⟩

/-- No leaf is a list. -/
theorem bare_of_mem_leaves (member : leaf ∈ value.leaves) : leaf.asList? = none := by
  -- Leaves stand at places of leaves.
  obtain ⟨places, known⟩ := leavesAt_leaves value
  exact known.bare leaf member

/-- The leaves of a changed value are those of what its leaves were changed into. -/
theorem leaves_mapLeaves (value : Value) (change : Value → Value) :
    (value.mapLeaves change).leaves = value.leaves.flatMap fun leaf => (change leaf).leaves := by
  induction value using nestedInduction with
  | leaf value bare =>
    rw [mapLeaves_of_bare bare, leaves_of_bare bare, List.flatMap_singleton]
  | list items ih =>
    -- Both sides go through the elements, for each of which they are known to agree.
    rw [mapLeaves_list, leaves_list, leaves_list, flatten_eq_flatMap, flatten_eq_flatMap,
      mapDeep_eq_map, List.flatMap_map, List.flatMap_assoc]
    exact List.flatMap_congr ih

/-- A value is the same when its leaves are changed into themselves. -/
theorem mapLeaves_id (value : Value) : value.mapLeaves id = value := by
  -- A list of elements that are the same is the same list.
  induction value using nestedInduction with
  | leaf value bare => exact mapLeaves_of_bare bare
  | list items ih => rw [mapLeaves_list, mapDeep_eq_map, List.map_congr_left ih, List.map_id']

/-- A second change goes on with the results of the first if these are leaves, and only then. -/
theorem mapLeaves_mapLeaves_iff (value : Value) (first : Value → Value) :
    (∀ leaf ∈ value.leaves, (first leaf).asList? = none) ↔
      ∀ second, (value.mapLeaves first).mapLeaves second = value.mapLeaves (second ∘ first) := by
  -- Both sides hold for a list when they hold for each element of it.
  induction value using nestedInduction with
  | leaf value bare =>
    simp only [leaves_of_bare bare, mapLeaves_of_bare bare, List.forall_mem_singleton]
    constructor
    · intro still second
      exact mapLeaves_of_bare still
    · intro onward
      -- A change into null goes into a list and leaves it one.
      have never := onward fun _ => .null
      cases given : first value with
      | list items => rw [given, mapLeaves_list] at never; cases never
      | null | bool | int | float | string | object => rfl
  | list items ih =>
    simp only [leaves_list, mapLeaves_list, mapDeep_eq_map, List.map_map, list.injEq,
      List.map_inj_left, flatten_eq_flatMap, List.forall_mem_flatMap]
    constructor
    · intro still second item member
      exact (ih item member).mp (still item member) second
    · intro onward item member
      exact (ih item member).mpr fun second => onward second item member

end Value

open Value (leaves_list)

/-- What was flattened has no list in it. -/
theorem bare_of_mem_flatten (member : leaf ∈ flatten items) : leaf.asList? = none :=
  Value.bare_of_mem_leaves (leaves_list ▸ member)

/-- A list is flattened into the leaves of its places, in their order. -/
theorem flatten_eq_iff :
    flatten items = leaves ↔ ∃ places, (Value.list items).LeavesAt places leaves := by
  -- The leaves stand at some places, and at those places no others do.
  obtain ⟨places, known⟩ := Value.leavesAt_leaves (.list items)
  rw [leaves_list] at known
  constructor
  · rintro rfl
    exact ⟨places, known⟩
  · rintro ⟨_, other⟩
    exact known.unique other

/-- Flattening a second time changes nothing. -/
theorem flatten_flatten : flatten (flatten items) = flatten items :=
  flatten_of_bare fun _ => bare_of_mem_flatten

/-- What leaves were changed into is flattened leaf by leaf. -/
theorem flatten_mapDeep :
    flatten (mapDeep change items) = (flatten items).flatMap fun leaf => flatten [change leaf] := by
  -- That is the law for the leaves of one value, taken for the list as a whole.
  have changed := (Value.list items).leaves_mapLeaves change
  rw [Value.mapLeaves_list, leaves_list, leaves_list] at changed
  simpa only [flatten_singleton] using changed

/-- Lists are the same when their leaves are changed into themselves. -/
theorem mapDeep_id : mapDeep id items = items := by
  -- That is the law for one value, taken for the list as a whole.
  have same := (Value.list items).mapLeaves_id
  rw [Value.mapLeaves_list] at same
  exact Value.list.inj same

/-- In lists too a second change goes on with the first if that makes no lists, and only then. -/
theorem mapDeep_mapDeep_iff :
    (∀ leaf ∈ flatten items, (first leaf).asList? = none) ↔
      ∀ second, mapDeep second (mapDeep first items) = mapDeep (second ∘ first) items := by
  -- That is the law for one value, taken for the list as a whole.
  simpa only [leaves_list, Value.mapLeaves_list, Value.list.injEq] using
    (Value.list items).mapLeaves_mapLeaves_iff first

/--
Flattening gathers the leaves of a list nested to any depth, depth first and from left to right.

There is no list among them. Flattening goes through appended lists one after the other, and a
second time it changes nothing. Changing the leaves and then flattening gives what flattening each
changed leaf gives, also where a leaf becomes a list. A change into the same value gives the list
back, and two changes in turn are their composition exactly when the first makes no leaf a list.
-/
theorem leaves_are_gathered_in_order :
    (∀ items leaves : List Value,
      flatten items = leaves ↔ ∃ places, (Value.list items).LeavesAt places leaves) ∧
    (∀ items : List Value, ∀ leaf ∈ flatten items, leaf.asList? = none) ∧
    (∀ items others : List Value, flatten (items ++ others) = flatten items ++ flatten others) ∧
    (∀ items : List Value, flatten (flatten items) = flatten items) ∧
    (∀ (change : Value → Value) (items : List Value), flatten (mapDeep change items) =
      (flatten items).flatMap fun leaf => flatten [change leaf]) ∧
    (∀ items : List Value, mapDeep id items = items) ∧
    ∀ (first : Value → Value) (items : List Value),
      (∀ leaf ∈ flatten items, (first leaf).asList? = none) ↔
        ∀ second, mapDeep second (mapDeep first items) = mapDeep (second ∘ first) items :=
  ⟨fun _ _ => flatten_eq_iff, fun _ _ => bare_of_mem_flatten, fun _ _ => flatten_append,
    fun _ => flatten_flatten, fun _ _ => flatten_mapDeep, fun _ => mapDeep_id,
    fun _ _ => mapDeep_mapDeep_iff⟩

/-- An empty list in a nested one, an object, and changes that make a leaf a list or none. -/
theorem leaves_are_gathered_in_order_of_nested :
    let object : Value := .object ⟨7, "IO", .list [.null], "IO"⟩
    let items : List Value := [.int 1, .list [.list [], .list [object, .null]], .string "x"]
    let leaves : List Value := [.int 1, object, .null, .string "x"]
    let pair : Value → Value := fun leaf => .list [leaf, .list [leaf]]
    let named : Value → Value := fun leaf => .string leaf.typeName
    flatten items = leaves ∧ (∃ places, (Value.list items).LeavesAt places leaves) ∧
      object ∈ flatten items ∧ object.asList? = none ∧
      flatten (mapDeep pair items) = leaves.flatMap (fun leaf => flatten [pair leaf]) ∧
      (∀ leaf ∈ flatten items, (named leaf).asList? = none) ∧
      mapDeep pair (mapDeep named items) = mapDeep (pair ∘ named) items ∧
      ¬ ∀ second, mapDeep second (mapDeep pair items) = mapDeep (second ∘ pair) items := by
  intro object items leaves pair named
  obtain ⟨gathered, bare, -, -, changed, -, twice⟩ := leaves_are_gathered_in_order
  -- Laid flat the list is computed, and what the statement asks of it is read off.
  have flat : flatten items = leaves := rfl
  have inside : object ∈ flatten items := flat ▸ List.mem_cons_of_mem _ (List.mem_cons_self ..)
  have still : ∀ leaf ∈ flatten items, (named leaf).asList? = none := fun _ _ => rfl
  refine ⟨flat, (gathered items leaves).mp flat, inside, bare items object inside,
    flat ▸ changed pair items, still, (twice named items).mp still pair, ?_⟩
  -- A pair is a list, also that of an object.
  intro onward
  have never := (twice pair items).mpr onward object inside
  cases never

end Motif
