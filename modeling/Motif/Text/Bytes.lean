/-! Byte offsets into text: how long a text is in UTF-8, and the part between two offsets. -/

namespace Motif

/-- The number of bytes a text takes in UTF-8. -/
def byteLength : List Char → Nat
  | [] => 0
  -- A character takes between one and four bytes.
  | char :: rest => char.utf8Size + byteLength rest

/-- The empty text takes no bytes. -/
@[simp] theorem byteLength_nil : byteLength [] = 0 := rfl

/-- A text takes the bytes of its first character and those of the rest. -/
@[simp] theorem byteLength_cons (char : Char) (rest : List Char) :
    byteLength (char :: rest) = char.utf8Size + byteLength rest := rfl

/-- Texts that are put together take the bytes of both. -/
@[simp] theorem byteLength_append (front back : List Char) :
    byteLength (front ++ back) = byteLength front + byteLength back := by
  induction front with
  | nil => simp
  | cons char rest ih => simp [ih, Nat.add_assoc]

/-- Characters have bytes. -/
theorem byteLength_pos {chars : List Char} (some : chars ≠ []) : 0 < byteLength chars := by
  obtain ⟨first, rest, rfl⟩ := List.exists_cons_of_ne_nil some
  rw [byteLength_cons]
  exact Nat.add_pos_left first.utf8Size_pos _

/-- Cuts a text after `count` bytes, unless it is shorter or the cut would split a character. -/
def cutAtByte? : Nat → List Char → Option (List Char × List Char)
  | 0, text => some ([], text)
  -- The text ran out before all bytes were counted.
  | _ + 1, [] => none
  | count + 1, char :: rest =>
    -- A character that is wider than what remains to be counted lies across the cut.
    if char.utf8Size ≤ count + 1 then
      (cutAtByte? (count + 1 - char.utf8Size) rest).map fun (front, back) => (char :: front, back)
    else none

/-- The part of a text between two byte offsets, when both lie on character boundaries. -/
def sliceBytes? (start stop : Nat) (text : List Char) : Option (List Char) :=
  -- An offset past the end makes the cut fail, and so does a range that runs backwards.
  if start ≤ stop then
    (cutAtByte? start text).bind fun (_, back) => (cutAtByte? (stop - start) back).map Prod.fst
  else none

/-- Cutting after all bytes of the front part gives both parts back. -/
theorem cutAtByte?_append (front back : List Char) :
    cutAtByte? (byteLength front) (front ++ back) = some (front, back) := by
  induction front with
  | nil => cases back <;> rfl
  | cons char rest ih =>
    -- The front has at least one byte, so the cut looks at its first character.
    have positive : 0 < char.utf8Size := char.utf8Size_pos
    obtain ⟨count, total⟩ : ∃ count, byteLength (char :: rest) = count + 1 :=
      ⟨byteLength (char :: rest) - 1, by simp; omega⟩
    have remaining : count + 1 - char.utf8Size = byteLength rest := by
      rw [← total, byteLength_cons]; omega
    have fits : char.utf8Size ≤ count + 1 := by
      rw [← total, byteLength_cons]; omega
    rw [total, List.cons_append, cutAtByte?, if_pos fits, remaining, ih]
    rfl

/-- Cutting gives two parts that make up the text, and the front part has the bytes asked for. -/
theorem cutAtByte?_eq_some_iff {count : Nat} {text front back : List Char} :
    cutAtByte? count text = some (front, back) ↔
      text = front ++ back ∧ count = byteLength front := by
  constructor
  · intro cut
    fun_induction cutAtByte? count text generalizing front with
    | case1 text =>
      cases cut
      exact ⟨rfl, rfl⟩
    | case2 | case4 => cases cut
    | case3 count char rest fits ih =>
      obtain ⟨⟨taken, left⟩, behind, same⟩ := Option.map_eq_some_iff.mp cut
      cases same
      obtain ⟨rfl, counted⟩ := ih behind
      refine ⟨rfl, ?_⟩
      rw [byteLength_cons]
      omega
  · rintro ⟨rfl, rfl⟩
    exact cutAtByte?_append front back

/-- The part of a text between two others has its bytes between theirs. -/
theorem sliceBytes?_of_append {text before middle after : List Char}
    (split : text = before ++ (middle ++ after)) :
    sliceBytes? (byteLength before) (byteLength before + byteLength middle) text = some middle := by
  -- Two cuts, one behind the first part and one behind the second, leave the part between.
  simp [sliceBytes?, split, cutAtByte?_append]

/-- A part of a text has the bytes between two offsets when it stands between those bytes. -/
theorem sliceBytes?_eq_some_iff {start stop : Nat} {text middle : List Char} :
    sliceBytes? start stop text = some middle ↔
      ∃ before after, text = before ++ (middle ++ after) ∧ start = byteLength before ∧
        stop = byteLength before + byteLength middle := by
  constructor
  · intro cut
    unfold sliceBytes? at cut
    split at cut
    · rename_i forward
      obtain ⟨⟨before, behind⟩, first, second⟩ := Option.bind_eq_some_iff.mp cut
      obtain ⟨⟨taken, after⟩, last, same⟩ := Option.map_eq_some_iff.mp second
      obtain ⟨rfl, counted⟩ := cutAtByte?_eq_some_iff.mp first
      obtain ⟨rfl, measured⟩ := cutAtByte?_eq_some_iff.mp last
      obtain rfl : taken = middle := same
      exact ⟨before, after, rfl, counted, by omega⟩
    · cases cut
  · rintro ⟨before, after, split, rfl, rfl⟩
    exact sliceBytes?_of_append split

/-- What stands behind the front of a text makes no difference to a part of that front. -/
theorem sliceBytes?_append_of_le {start stop : Nat} {front : List Char}
    (within : stop ≤ byteLength front) (back : List Char) :
    sliceBytes? start stop (front ++ back) = sliceBytes? start stop front := by
  refine Option.ext fun middle => ?_
  rw [sliceBytes?_eq_some_iff, sliceBytes?_eq_some_iff]
  constructor
  · rintro ⟨before, after, split, rfl, rfl⟩
    rw [← List.append_assoc, List.append_eq_append_iff] at split
    rcases split with ⟨more, longer, rfl⟩ | ⟨rest, rfl, rfl⟩
    · -- The part ends with the front at the latest, so nothing of it lies behind.
      have bytes := congrArg byteLength longer
      simp only [byteLength_append] at bytes
      obtain rfl : more = [] := by
        cases more with
        | nil => rfl
        | cons char rest =>
          have := byteLength_pos (List.cons_ne_nil char rest)
          omega
      exact ⟨before, [], by simpa using longer.symm, rfl, rfl⟩
    · exact ⟨before, rest, by simp, rfl, rfl⟩
  · rintro ⟨before, after, rfl, rfl, rfl⟩
    exact ⟨before, after ++ back, by simp, rfl, rfl⟩

end Motif
