import Motif.Accumulation
import Motif.Proofs.Leaves

/-!
A collection loses nothing when it grows.

Each step keeps the leaves that were there and puts behind them those of everything it makes, in
the order of the elements or functions that it is made from.
-/

namespace Motif.Accumulation

variable {own : Accumulation}

/-- A value is taken in with its leaves, whether it is a list or not. -/
theorem extract_of (value : Value) : (of value).extract = value.leaves := by
  -- A list is laid flat at once, and any other value is a collection of one element.
  cases value with
  | list items => rw [Value.leaves_list]; rfl
  | null | bool | int | float | string | object => rfl

/-- Leaves that were extracted are leaves already. -/
theorem bare_of_mem_extract : ∀ leaf ∈ own.extract, leaf.asList? = none :=
  fun _ => bare_of_mem_flatten

/-- What is bound is gathered behind the collection, one list for each of its elements. -/
theorem collection_bind (produce : Value → Accumulation) :
    (own.bind produce).collection = flatten
      (fold (fun gathered item => gathered ++ [.list (produce item).extract]) own.collection
        own.collection) := by
  -- Adding up lists one by one puts them behind the elements that are there.
  rw [fold_append, ← List.map_eq_flatMap]
  rfl

/-- Binding appends the leaves of what is made of each element. -/
theorem extract_bind (produce : Value → Accumulation) :
    (own.bind produce).extract =
      own.extract ++ own.collection.flatMap fun item => (produce item).extract := by
  -- What is made of one element comes as a list of leaves, so nothing in it is nested.
  have single (item : Value) :
      flatten [.list (produce item).extract] = (produce item).extract := by
    rw [flatten_singleton, Value.leaves_list]
    exact flatten_of_bare bare_of_mem_extract
  rw [extract, collection_bind, flatten_flatten, fold_append, flatten_append, flatten_flatMap]
  -- Laying the gathered list flat a second time changes nothing.
  simp only [single]
  rfl

/-- Mapping appends the leaves of what each element is changed into. -/
theorem extract_map (change : Value → Value) :
    (own.map change).extract = own.extract ++ flatten (own.collection.map change) := by
  -- Mapping binds a function whose values are taken in one by one.
  rw [map, extract_bind, flatten_eq_flatMap, List.flatMap_map]
  simp only [extract_of]

/-- Applying functions appends, function by function, what they make of the leaves. -/
theorem extract_applyAll (functions : List (Value → Value)) :
    (own.applyAll functions).extract =
      own.extract ++ functions.flatMap fun change => flatten (own.extract.map change) := by
  -- The elements that functions are applied to are leaves, so no nesting is gone into.
  have direct (change : Value → Value) : mapDeep change own.extract = own.extract.map change := by
    rw [mapDeep_eq_map]
    apply List.map_congr_left
    intro leaf member
    exact Value.mapLeaves_of_bare (bare_of_mem_extract leaf member)
  -- So the collection gets one run of results for each function.
  have collected : (own.applyAll functions).collection =
      own.extract ++ functions.flatMap fun change => own.extract.map change := by
    simp only [applyAll, direct]
    rw [fold_append, List.flatMap_map]
  -- The leaves that were there stay as they are, and only the results are laid flat.
  rw [extract, collected, flatten_append, flatten_flatMap]
  exact congrArg (· ++ _) (flatten_of_bare bare_of_mem_extract)

/-- A way to let a collection grow. -/
inductive Growth where
  | bind (produce : Value → Accumulation)
  | map (change : Value → Value)
  | applyAll (functions : List (Value → Value))

/-- A collection after it has grown in some way. -/
def grow (own : Accumulation) : Growth → Accumulation
  | .bind produce => own.bind produce
  | .map change => own.map change
  | .applyAll functions => own.applyAll functions

/-- However a collection grows, it begins with the leaves that it had. -/
theorem extract_prefix_grow (own : Accumulation) (growth : Growth) :
    own.extract <+: (own.grow growth).extract := by
  -- Each way to grow has been told as leaves that are appended.
  cases growth with
  | bind produce => exact ⟨_, (extract_bind produce).symm⟩
  | map change => exact ⟨_, (extract_map change).symm⟩
  | applyAll functions => exact ⟨_, (extract_applyAll functions).symm⟩

/-- However long a collection grows, it begins with the leaves that it had. -/
theorem extract_prefix_foldl (own : Accumulation) (growths : List Growth) :
    own.extract <+: (growths.foldl grow own).extract := by
  -- Beginning with certain leaves goes on from each step to the next.
  induction growths generalizing own with
  | nil => exact List.prefix_refl _
  | cons growth rest ih => exact (own.extract_prefix_grow growth).trans (ih (own.grow growth))

/--
A collection keeps its leaves in front of all that it gets, and nothing that it is given is lost.

Binding appends the leaves of what is made of every element, lists among the elements included, and
leaves a flat collection. Mapping does the same with single values. Applying functions appends, one
function after the other, the leaves of what it makes of every leaf. On a collection without lists
in it a function is applied as it is mapped.
-/
theorem growth_keeps_leaves_in_front :
    (∀ (own : Accumulation) (produce : Value → Accumulation),
      (own.bind produce).extract = flatten own.collection ++
          own.collection.flatMap (fun item => (produce item).extract) ∧
        ∀ item ∈ (own.bind produce).collection, item.asList? = none) ∧
    (∀ (own : Accumulation) (change : Value → Value),
      (own.map change).extract =
          flatten own.collection ++ flatten (own.collection.map change) ∧
        own.flatMap change = (own.map change).extract ∧
        ∀ item ∈ (own.map change).collection, item.asList? = none) ∧
    (∀ (own : Accumulation) (functions : List (Value → Value)),
      (own.applyAll functions).extract = flatten own.collection ++
        functions.flatMap fun change => flatten ((flatten own.collection).map change)) ∧
    (∀ (own : Accumulation) (growths : List Growth),
      own.extract <+: (growths.foldl grow own).extract) ∧
    ∀ (own : Accumulation) (change : Value → Value),
      (∀ item ∈ own.collection, item.asList? = none) →
        (own.applyAll [change]).extract = (own.map change).extract := by
  -- Binding lays its collection flat as the last thing it does.
  have flat (own : Accumulation) (produce : Value → Accumulation) :
      ∀ item ∈ (own.bind produce).collection, item.asList? = none := by
    rw [collection_bind]
    exact fun _ => bare_of_mem_flatten
  refine ⟨?_, ?_, ?_, extract_prefix_foldl, ?_⟩
  · intro own produce
    exact ⟨extract_bind produce, flat own produce⟩
  · intro own change
    exact ⟨extract_map change, rfl, flat own _⟩
  · intro own functions
    exact extract_applyAll functions
  · intro own change bare
    -- Without lists among its elements a collection has these for its leaves.
    have whole : own.extract = own.collection := flatten_of_bare bare
    rw [extract_applyAll, extract_map, whole, List.flatMap_singleton]

/-- A collection with a list in it, one without, and functions that make lists and none. -/
theorem growth_keeps_leaves_in_front_of_nested :
    let nested : Accumulation := ⟨[.int 1, .list [.int 2, .list []]]⟩
    let plain : Accumulation := ⟨[.int 1, .int 2]⟩
    let pair : Value → Value := fun value => .list [value, value]
    let named : Value → Value := fun value => .string value.typeName
    (nested.bind fun value => of (pair value)).extract =
        [.int 1, .int 2, .int 1, .int 1, .int 2, .int 2] ∧
      (nested.map named).extract = [.int 1, .int 2, .string "int", .string "list"] ∧
      (nested.applyAll [named, pair]).extract =
        [.int 1, .int 2, .string "int", .string "int", .int 1, .int 1, .int 2, .int 2] ∧
      nested.extract <+: ((nested.map pair).applyAll [named, pair]).extract ∧
      (∀ item ∈ plain.collection, item.asList? = none) ∧
      (plain.applyAll [pair]).extract = (plain.map pair).extract := by
  intro nested plain pair named
  obtain ⟨bound, mapped, applied, kept, agree⟩ := growth_keeps_leaves_in_front
  have bare : ∀ item ∈ plain.collection, item.asList? = none := by simp [plain, Value.asList?]
  exact ⟨(bound nested _).1.trans rfl, (mapped nested named).1.trans rfl,
    (applied nested _).trans rfl, kept nested [.map pair, .applyAll [named, pair]], bare,
    agree plain pair bare⟩

end Motif.Accumulation
