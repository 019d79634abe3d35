import Motif.Proofs.Matching
import Motif.Proofs.Pattern.Reading

/-!
Values by name: how many values a match binds, and which of them a name stands for.

The names of a pattern that was read are all different, so each of them has a value of its own.
-/

namespace Motif

namespace Bindings

/-- Every entry has one name. -/
theorem length_names (bindings : Bindings) : bindings.names.length = bindings.length := by
  -- Names are read off the entries one by one.
  simp [names, length]

/-- Where all names differ, looking up the name of an entry gives the value of that entry. -/
theorem get?_of_distinct {bindings : Bindings} (distinct : bindings.names.Nodup) {index : Nat}
    {name : String} {value : Value} (found : bindings.entries[index]? = some (name, value)) :
    bindings.get? name = some value := by
  -- The names that lie in front differ from the one looked up, so the search passes by them.
  obtain ⟨entries⟩ := bindings
  induction entries generalizing index with
  | nil => simp at found
  | cons front rest ih =>
    have others : front.1 ∉ (Bindings.mk rest).names ∧ (Bindings.mk rest).names.Nodup := by
      simpa [names] using distinct
    cases index with
    | zero =>
      -- The entry stands in front, so the search ends with it.
      obtain rfl : front = (name, value) := by simpa using found
      simp [get?]
    | succ index =>
      have behind : rest[index]? = some (name, value) := by simpa using found
      -- The front entry has another name, or that name would stand in two places.
      have differs : front.1 ≠ name := by
        intro same
        have member : name ∈ (Bindings.mk rest).names :=
          List.mem_map.mpr ⟨(name, value), List.mem_of_getElem? behind, rfl⟩
        exact others.1 (same ▸ member)
      have passed : (Bindings.mk (front :: rest)).get? name = (Bindings.mk rest).get? name := by
        simp [get?, differs]
      rw [passed]
      exact ih others.2 behind

/-- Where all names differ, the name in some place stands for the value in that place. -/
theorem exists_value_of_names {bindings : Bindings} (distinct : bindings.names.Nodup) {index : Nat}
    {name : String} (found : bindings.names[index]? = some name) :
    ∃ value, bindings.values[index]? = some value ∧ bindings.get? name = some value := by
  -- Names and values are read off the same entries, so a place has both or neither.
  rw [names, List.getElem?_map] at found
  obtain ⟨⟨own, value⟩, entry, rfl⟩ := Option.map_eq_some_iff.mp found
  refine ⟨value, ?_, get?_of_distinct distinct entry⟩
  rw [values, List.getElem?_map, entry]
  rfl

end Bindings

namespace Pattern

/-- The names of a pattern that was read from a text are all different. -/
theorem binders_nodup_of_parseWith {options : PatternOptions} {source : String} {pattern : Pattern}
    (done : parseWith options source = .ok pattern) : pattern.binders.Nodup := by
  by_cases tagged : ∃ name, pattern = .typeTag name
  · -- A type tag has no names at all.
    obtain ⟨name, rfl⟩ := tagged
    simp [binders]
  · -- Every other pattern was checked name by name, however long its text is.
    have admitted := (form_of_parseWith done fun name same => tagged ⟨name, same⟩).2
    exact (fresh_of_nothing.mp admitted.1).2

/--
A match binds the names of its pattern in order, as many as the arity says.

This holds of any pattern, also of one with repeated names that no text writes.
For a pattern that was read, the name in each place stands for the value in that place.
-/
theorem match_binds_as_many_as_arity (pattern : Pattern) :
    pattern.binders.length = pattern.arity ∧
      (∀ value bindings,
        pattern.match? value = some bindings ∨ pattern.matchFront? value = some bindings →
          bindings.names = pattern.binders ∧ bindings.length = pattern.arity) ∧
      ∀ options source, parseWith options source = .ok pattern →
        pattern.binders.Nodup ∧
          ∀ value bindings,
            pattern.match? value = some bindings ∨ pattern.matchFront? value = some bindings →
              ∀ (index : Nat) (name : String), pattern.binders[index]? = some name →
                ∃ bound, bindings.values[index]? = some bound ∧
                  bindings.get? name = some bound := by
  -- Both ways to match go through the same pairing, which differs only in the lengths it allows.
  have bound {value : Value} {bindings : Bindings}
      (matched : pattern.match? value = some bindings ∨
        pattern.matchFront? value = some bindings) : bindings.names = pattern.binders := by
    rcases matched with exact | front
    · exact names_of_matchBy? exact
    · exact names_of_matchBy? front
  refine ⟨pattern.length_binders, ?_, ?_⟩
  · intro value bindings matched
    have names := bound matched
    refine ⟨names, ?_⟩
    rw [← bindings.length_names, names, pattern.length_binders]
  · intro options source done
    have distinct := binders_nodup_of_parseWith done
    refine ⟨distinct, ?_⟩
    intro value bindings matched index name found
    rw [← bound matched] at distinct found
    exact Bindings.exists_value_of_names distinct found

/-- In a longer list the last name of a nested cons pattern stands for the inner rest. -/
theorem match_binds_as_many_as_arity_of_nested :
    let pattern : Pattern := .list [.binder "a", .cons ⟨["x"], .binder "xs"⟩, .wildcard]
    let value : Value := .list [.null, .list [.bool true, .null], .null, .null]
    let bindings : Bindings := ⟨[("a", .null), ("x", .bool true), ("xs", .list [.null])]⟩
    parseWith {} "[a, (x:xs), _]" = .ok pattern ∧
      pattern.matchFront? value = some bindings ∧ pattern.binders[2]? = some "xs" ∧
      ∃ bound, bindings.values[2]? = some bound ∧ bindings.get? "xs" = some bound := by
  intro pattern value bindings
  have done : parseWith {} "[a, (x:xs), _]" = .ok pattern := by cbv
  have matched : pattern.matchFront? value = some bindings := by rfl
  have found : pattern.binders[2]? = some "xs" := by rfl
  have lookups := ((match_binds_as_many_as_arity pattern).2.2 {} "[a, (x:xs), _]" done).2
  exact ⟨done, matched, found, lookups value bindings (.inr matched) 2 "xs" found⟩

end Pattern

end Motif
