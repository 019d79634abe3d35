import Motif.Proofs.Text.ByteCursor

/-!
A cursor over bytes moves on, or stays where it is, and never leaves its text.

The bytes ahead of it are always those of the text from its position on. So what it reads and finds
can be told by positions, and a search that cuts the text at each position it comes to never cuts
beyond the end.
-/

namespace Motif

open ByteCursor (leadWidth backslash)

/-- The bytes from a position on; beyond the end there is no such part. -/
def bytesFrom? (bytes : List UInt8) (position : Nat) : Option (List UInt8) :=
  if position ≤ bytes.length then some (bytes.drop position) else none

/-- Whether a search for a quote stops at a byte to look closer. -/
def isSpecial (quote byte : UInt8) : Bool :=
  byte == quote || byte == backslash

/-- Behind a byte that was found in such a part there is less of the text. -/
theorem behind_shorter {bytes rest : List UInt8} {position offset : Nat} {test : UInt8 → Bool}
    (part : bytesFrom? bytes position = some rest) (found : rest.findIdx? test = some offset)
    (width : Nat) :
    bytes.length - min (min (position + (offset + 1)) bytes.length + width) bytes.length <
      bytes.length - position := by
  unfold bytesFrom? at part
  split at part
  · -- The byte itself lies within the text, and the search goes on behind it.
    obtain rfl := Option.some.inj part
    obtain ⟨inside, -⟩ := List.findIdx?_eq_some_iff_getElem.mp found
    rw [List.length_drop] at inside
    omega
  · cases part

/-- Where a quotation is closed, searched by positions; without a result where a part is missing. -/
def searchQuote? (bytes : List UInt8) (quote : UInt8) (position : Nat) : Option (Bool × Nat) :=
  match _ : bytesFrom? bytes position with
  | none => none
  | some rest =>
    match _ : rest.findIdx? (isSpecial quote) with
    | none => some (false, bytes.length)
    | some offset =>
      let behind := min (position + (offset + 1)) bytes.length
      if rest[offset]? = some backslash then
        -- The search goes on behind the character that the backslash hides.
        searchQuote? bytes quote (min (behind + leadWidth (bytes.getD behind 0)) bytes.length)
      else some (true, behind)
termination_by bytes.length - position
decreasing_by exact behind_shorter ‹_› ‹_› _

namespace ByteCursor

variable {cursor : ByteCursor} {quote : UInt8} {bytes : List UInt8}

/-- Moves on while a test passes, which may answer otherwise each time that it is asked. -/
def eatWhileAsked (keep : Nat → UInt8 → Bool) (cursor : ByteCursor) : ByteCursor :=
  cursor.advanceBy (cursor.ahead.zipIdx.takeWhile fun (byte, asked) => keep asked byte).length

/-- A way to move a cursor. -/
inductive Move where
  | advance
  | advanceBy (count : Nat)
  | advanceChar
  | eatWhile (keep : UInt8 → Bool)
  | eatWhileAsked (keep : Nat → UInt8 → Bool)
  | skipQuoted (quote : UInt8)

/-- The cursor behind a move. -/
def move (cursor : ByteCursor) : Move → ByteCursor
  | .advance => cursor.advance
  | .advanceBy count => cursor.advanceBy count
  | .advanceChar => cursor.advanceChar
  | .eatWhile keep => cursor.eatWhile keep
  | .eatWhileAsked keep => cursor.eatWhileAsked keep
  | .skipQuoted quote => (cursor.skipQuoted quote).2

/-- The cursor behind some moves. -/
def run (cursor : ByteCursor) (moves : List Move) : ByteCursor :=
  moves.foldl move cursor

/-- Passing no byte leaves a cursor where it is. -/
theorem advanceBy_zero : cursor.advanceBy 0 = cursor := by
  -- The position grows by nothing, and nothing is dropped.
  simp [advanceBy]

/-- Passing bytes twice passes them all at once. -/
theorem advanceBy_advanceBy (first second : Nat) :
    (cursor.advanceBy first).advanceBy second = cursor.advanceBy (first + second) := by
  -- Where fewer bytes are left, both ways end at the end of the text.
  simp only [advanceBy, List.length_drop, List.drop_drop, mk.injEq, and_true]
  omega

/-- At the end there is nothing to pass. -/
theorem advanceBy_of_ahead_nil (ended : cursor.ahead = []) (count : Nat) :
    cursor.advanceBy count = cursor := by
  -- However many bytes are asked for, none is there.
  obtain ⟨position, ahead⟩ := cursor
  subst ended
  simp [advanceBy]

/-- Moving on while a test passes is passing the bytes that pass it. -/
theorem eatWhile_eq_advanceBy (keep : UInt8 → Bool) :
    cursor.eatWhile keep = cursor.advanceBy (cursor.ahead.takeWhile keep).length := by
  -- The bytes that pass the test stand in front of the others.
  have passed := @advanceBy_append cursor.position (cursor.ahead.takeWhile keep)
    (cursor.ahead.dropWhile keep)
  rw [List.takeWhile_append_dropWhile] at passed
  exact passed.symm

/-- A test that answers alike each time stops where a plain test does. -/
theorem eatWhileAsked_const (keep : UInt8 → Bool) :
    cursor.eatWhileAsked (fun _ => keep) = cursor.eatWhile keep := by
  -- Counting how often the test was asked makes no difference to such a test.
  have plain : (cursor.ahead.zipIdx.map Prod.fst).takeWhile keep = _ := List.takeWhile_map
  rw [List.zipIdx_map_fst] at plain
  rw [eatWhile_eq_advanceBy, plain, List.length_map]
  rfl

/-- Skipping a quotation passes some number of bytes. -/
theorem skipQuoted_eq_advanceBy (quote : UInt8) (cursor : ByteCursor) :
    ∃ count, (cursor.skipQuoted quote).2 = cursor.advanceBy count := by
  -- Each way on adds the bytes that it passes itself to those that are passed behind it.
  fun_induction skipQuoted quote cursor with
  | case1 cursor ended => exact ⟨0, advanceBy_zero.symm⟩
  | case2 cursor more escape ih =>
    obtain ⟨count, behind⟩ := ih
    rw [behind, advanceChar, advance, advanceBy_advanceBy, advanceBy_advanceBy]
    exact ⟨_, rfl⟩
  | case3 cursor more bare closing => exact ⟨1, rfl⟩
  | case4 cursor more bare other ih =>
    obtain ⟨count, behind⟩ := ih
    rw [behind, advance, advanceBy_advanceBy]
    exact ⟨_, rfl⟩

/-- Every move passes some number of bytes, as far as there are so many. -/
theorem move_eq_advanceBy (cursor : ByteCursor) (step : Move) :
    ∃ count, cursor.move step = cursor.advanceBy count := by
  -- Only the search for a quote does not tell that number at once.
  cases step with
  | advance => exact ⟨1, rfl⟩
  | advanceBy count => exact ⟨count, rfl⟩
  | advanceChar => exact ⟨_, rfl⟩
  | eatWhile keep => exact ⟨_, (eatWhileAsked_const keep).symm⟩
  | eatWhileAsked keep => exact ⟨_, rfl⟩
  | skipQuoted quote => exact skipQuoted_eq_advanceBy quote cursor

/-- So do some moves together. -/
theorem run_eq_advanceBy (cursor : ByteCursor) (moves : List Move) :
    ∃ count, cursor.run moves = cursor.advanceBy count := by
  -- The numbers of the single moves add up.
  induction moves generalizing cursor with
  | nil => exact ⟨0, advanceBy_zero.symm⟩
  | cons step rest ih =>
    obtain ⟨first, moved⟩ := cursor.move_eq_advanceBy step
    obtain ⟨second, behind⟩ := ih (cursor.move step)
    refine ⟨first + second, ?_⟩
    rw [← advanceBy_advanceBy, ← moved]
    exact behind

/-- A cursor that has passed some of the bytes of a text and has the others ahead. -/
structure Inside (bytes : List UInt8) (cursor : ByteCursor) : Prop where
  within : cursor.position ≤ bytes.length
  ahead_eq : cursor.ahead = bytes.drop cursor.position

namespace Inside

/-- A cursor starts at the beginning, with the whole text ahead. -/
theorem ofText (source : String) : Inside (encoded source.toList) (ofText source) :=
  ⟨Nat.zero_le _, rfl⟩

/-- What is ahead is as long as the text without what was passed. -/
theorem length_ahead (inside : Inside bytes cursor) :
    cursor.ahead.length = bytes.length - cursor.position := by
  -- The bytes ahead are the text without those that were passed.
  rw [inside.ahead_eq, List.length_drop]

/-- A cursor stops at the end of the text, although it was told to go farther. -/
theorem advanceBy_position (inside : Inside bytes cursor) (count : Nat) :
    (cursor.advanceBy count).position = min (cursor.position + count) bytes.length := by
  -- No more bytes are passed than lie ahead, and these reach to the end.
  have := inside.within
  have := inside.length_ahead
  simp only [advanceBy]
  omega

/-- Passing bytes leads from one place within a text to another. -/
theorem advanceBy (inside : Inside bytes cursor) (count : Nat) :
    Inside bytes (cursor.advanceBy count) := by
  -- The bytes ahead stay those of the text from the new position on.
  have position := inside.advanceBy_position count
  refine ⟨by omega, ?_⟩
  rw [position]
  show cursor.ahead.drop count = _
  rw [inside.ahead_eq, List.drop_drop]
  -- Beyond the end there is as little as at the end.
  rcases Nat.le_total (cursor.position + count) bytes.length with fits | beyond
  · rw [Nat.min_eq_left fits]
  · rw [Nat.min_eq_right beyond, List.drop_length, List.drop_of_length_le beyond]

/-- So do all moves of a run. -/
theorem run (inside : Inside bytes cursor) (moves : List Move) :
    Inside bytes (cursor.run moves) := by
  -- A run passes a number of bytes, as any move does.
  obtain ⟨count, moved⟩ := cursor.run_eq_advanceBy moves
  exact moved ▸ inside.advanceBy count

/-- Nothing is ahead exactly at the end of the text. -/
theorem ahead_eq_nil_iff (inside : Inside bytes cursor) :
    cursor.ahead = [] ↔ cursor.position = bytes.length := by
  -- What is passed and what is ahead make up the length of the text.
  have := inside.within
  have := inside.length_ahead
  rw [← List.length_eq_zero_iff]
  omega

/-- The test for the end compares positions. -/
theorem atEnd_iff (inside : Inside bytes cursor) :
    cursor.atEnd = true ↔ cursor.position = bytes.length := by
  -- The test asks whether any byte is left ahead.
  rw [atEnd, List.isEmpty_iff, inside.ahead_eq_nil_iff]

/-- The current byte is the one at the position, or zero. -/
theorem current_eq (inside : Inside bytes cursor) :
    cursor.current = bytes.getD cursor.position 0 := by
  -- The front of what is ahead stands at the position in the text.
  rw [current, inside.ahead_eq, List.headD_eq_head?_getD, List.head?_drop,
    List.getD_eq_getElem?_getD]

/-- The byte that is looked at in advance stands one place farther on, or is zero. -/
theorem peek_eq (inside : Inside bytes cursor) :
    cursor.peek = bytes.getD (cursor.position + 1) 0 := by
  -- Behind the current byte the text goes on one place farther.
  rw [peek, inside.ahead_eq, List.tail_drop, List.headD_eq_head?_getD, List.head?_drop,
    List.getD_eq_getElem?_getD]

/-- Behind a quotation that is closed the byte passed last is its quote. -/
theorem quote_of_skipQuoted (inside : Inside bytes cursor)
    (closed : (cursor.skipQuoted quote).1 = true) :
    ∃ before, (cursor.skipQuoted quote).2.position = before + 1 ∧ bytes[before]? = some quote := by
  -- A search that goes on does so from another place within the text.
  fun_induction skipQuoted quote cursor with
  | case1 cursor ended => cases closed
  | case2 cursor more escape ih => exact ih ((inside.advanceBy 1).advanceBy _) closed
  | case3 cursor more bare closing =>
    have fits : cursor.position + 1 ≤ bytes.length := by
      have := inside.within
      have := mt inside.ahead_eq_nil_iff.mpr more
      omega
    refine ⟨cursor.position, ?_, ?_⟩
    · rw [advance, inside.advanceBy_position, Nat.min_eq_left fits]
    · rw [List.getElem?_eq_getElem fits, ← closing, inside.current_eq,
        List.getD_eq_getElem _ _ fits]
  | case4 cursor more bare other ih => exact ih (inside.advanceBy 1) closed

end Inside

/-- A quotation that is not closed is passed to the end. -/
theorem ahead_of_skipQuoted (unclosed : (cursor.skipQuoted quote).1 = false) :
    (cursor.skipQuoted quote).2.ahead = [] := by
  -- A search that was not closed has gone on until nothing was ahead.
  fun_induction skipQuoted quote cursor with
  | case1 cursor ended => exact ended
  | case2 cursor more escape ih => exact ih unclosed
  | case3 cursor more bare closing => cases unclosed
  | case4 cursor more bare other ih => exact ih unclosed

/-- Bytes before the first special one are plain, and a cursor passes them. -/
theorem skipQuoted_of_plain {front back : List UInt8} (split : cursor.ahead = front ++ back)
    (plain : ∀ byte ∈ front, isSpecial quote byte = false) :
    cursor.skipQuoted quote = (cursor.advanceBy front.length).skipQuoted quote := by
  -- A byte that is neither a quote nor a backslash is passed without a closer look.
  obtain ⟨position, ahead⟩ := cursor
  subst split
  rw [advanceBy_append]
  refine skipQuoted_append back fun byte member => ?_
  have neither := plain byte member
  rw [isSpecial, Bool.or_eq_false_iff, beq_eq_false_iff_ne, beq_eq_false_iff_ne] at neither
  exact neither.symm

/-- Where no special byte lies ahead, everything is passed. -/
theorem skipQuoted_of_findIdx?_none
    (none : cursor.ahead.findIdx? (isSpecial quote) = none) :
    cursor.skipQuoted quote = (false, cursor.advanceBy cursor.ahead.length) := by
  -- All bytes ahead are plain, and behind them the search ends.
  have plain := List.findIdx?_eq_none_iff.mp none
  rw [skipQuoted_of_plain (List.append_nil _).symm plain, skipQuoted, dif_pos]
  simp [advanceBy]

/-- The first special byte ends the search, or it is a backslash and hides the next character. -/
theorem skipQuoted_of_findIdx?_some {offset : Nat}
    (found : cursor.ahead.findIdx? (isSpecial quote) = some offset) :
    cursor.skipQuoted quote =
      if cursor.ahead[offset]? = some backslash then
        (cursor.advanceBy (offset + 1)).advanceChar.skipQuoted quote
      else (true, cursor.advanceBy (offset + 1)) := by
  obtain ⟨inside, special, before⟩ := List.findIdx?_eq_some_iff_getElem.mp found
  -- Everything in front of the first special byte is plain.
  have plain : ∀ byte ∈ cursor.ahead.take offset, isSpecial quote byte = false := by
    intro byte member
    obtain ⟨index, bound, rfl⟩ := List.mem_take_iff_getElem.mp member
    exact Bool.eq_false_iff.mpr (before index (by omega))
  have length : (cursor.ahead.take offset).length = offset :=
    List.length_take_of_le (Nat.le_of_lt inside)
  -- So the search stands right before that byte, with it as the current one.
  have split : (cursor.advanceBy offset).ahead =
      cursor.ahead[offset] :: cursor.ahead.drop (offset + 1) := List.drop_eq_getElem_cons inside
  have here : (cursor.advanceBy offset).current = cursor.ahead[offset] := by
    rw [current, split, List.headD_cons]
  have more : (cursor.advanceBy offset).ahead ≠ [] := by
    rw [split]
    exact List.cons_ne_nil _ _
  rw [skipQuoted_of_plain (List.take_append_drop offset _).symm plain, length, skipQuoted,
    dif_neg more, here, advance, advanceBy_advanceBy, List.getElem?_eq_getElem inside]
  -- A special byte that is no backslash is the quote itself.
  by_cases escape : cursor.ahead[offset] = backslash
  · rw [if_pos escape, if_pos (congrArg some escape)]
  · rw [isSpecial, Bool.or_eq_true, beq_iff_eq, beq_iff_eq] at special
    rw [if_neg escape, if_neg (mt Option.some.inj escape), if_pos (special.resolve_right escape)]

/-- What a cursor finds from a position on, told by positions. -/
theorem searchQuote?_eq (inside : Inside bytes cursor) :
    searchQuote? bytes quote cursor.position =
      some ((cursor.skipQuoted quote).map id ByteCursor.position) := by
  -- The search comes to its end because less lies ahead each time that it goes on.
  induction size : cursor.ahead.length using Nat.strong_induction_on generalizing cursor with
  | _ size ih =>
    subst size
    have rest : bytesFrom? bytes cursor.position = some cursor.ahead := by
      rw [bytesFrom?, if_pos inside.within, inside.ahead_eq]
    have within := inside.within
    have length := inside.length_ahead
    rw [searchQuote?]
    split
    · -- A part could only be missing beyond the end.
      rename_i missing
      rw [rest] at missing
      cases missing
    rename_i own same
    obtain rfl : cursor.ahead = own := Option.some.inj (rest.symm.trans same)
    split
    · rename_i none
      rw [skipQuoted_of_findIdx?_none none, Prod.map_apply, inside.advanceBy_position,
        Nat.min_eq_right (by omega)]
      rfl
    · rename_i offset found
      have behind := inside.advanceBy (offset + 1)
      have more : cursor.ahead ≠ [] := by
        intro ended
        rw [ended] at found
        cases found
      dsimp only
      rw [skipQuoted_of_findIdx?_some found, ← inside.advanceBy_position, ← behind.current_eq,
        ← behind.advanceBy_position]
      split
      · refine ih _ ?_ (behind.advanceBy _) rfl
        exact Nat.lt_of_le_of_lt (advanceBy_length_le _ _)
          (advanceBy_shorter (Nat.succ_pos offset) more)
      · rfl

/--
Whatever moves a cursor makes in a text, it goes forward and stays within the text.

It reads the byte at its position and the one behind, or zero where there is none, and stops at the
end although it was told to go farther. The search for a closing quote finds all the parts of the
text that it looks at, and comes to its end: behind the quote, or at the end of the text. There a
cursor reads zeros and does not move any more.
-/
theorem cursor_never_leaves_text (source : String) (moves : List Move) :
    let bytes := encoded source.toList
    let cursor := (ofText source).run moves
    cursor.position ≤ bytes.length ∧
      (cursor.atEnd = true ↔ cursor.position = bytes.length) ∧
      cursor.current = bytes.getD cursor.position 0 ∧
      cursor.peek = bytes.getD (cursor.position + 1) 0 ∧
      (∀ more, cursor.position ≤ (cursor.run more).position) ∧
      (∀ count limit, bytes.length ≤ limit →
        (cursor.advanceBy count).position =
          min (min (cursor.position + count) limit) bytes.length) ∧
      (∀ quote, searchQuote? bytes quote cursor.position =
        some ((cursor.skipQuoted quote).map id position)) ∧
      (∀ quote, (cursor.skipQuoted quote).1 = true →
        ∃ before, (cursor.skipQuoted quote).2.position = before + 1 ∧
          bytes[before]? = some quote) ∧
      (∀ quote, (cursor.skipQuoted quote).1 = false →
        (cursor.skipQuoted quote).2.position = bytes.length) ∧
      (cursor.position = bytes.length →
        cursor.current = 0 ∧ cursor.peek = 0 ∧ ∀ more, cursor.run more = cursor) := by
  intro bytes cursor
  -- All moves keep the cursor inside, and the rest is told by that.
  have inside : Inside bytes cursor := (Inside.ofText source).run moves
  refine ⟨inside.within, inside.atEnd_iff, inside.current_eq, inside.peek_eq, ?_, ?_,
    fun _ => searchQuote?_eq inside, fun _ => inside.quote_of_skipQuoted, ?_, ?_⟩
  · intro more
    obtain ⟨count, moved⟩ := cursor.run_eq_advanceBy more
    have := inside.within
    rw [moved, inside.advanceBy_position]
    omega
  · intro count limit short
    rw [inside.advanceBy_position]
    omega
  · intro quote unclosed
    obtain ⟨count, moved⟩ := skipQuoted_eq_advanceBy quote cursor
    have behind : Inside bytes (cursor.skipQuoted quote).2 := moved ▸ inside.advanceBy count
    exact behind.ahead_eq_nil_iff.mp (ahead_of_skipQuoted unclosed)
  · intro final
    have ended := inside.ahead_eq_nil_iff.mpr final
    refine ⟨by rw [current, ended]; rfl, by rw [peek, ended]; rfl, ?_⟩
    intro more
    obtain ⟨count, moved⟩ := cursor.run_eq_advanceBy more
    rw [moved, advanceBy_of_ahead_nil ended]

/-- A quote that is the second byte of a character, and one that a backslash hides at the end. -/
theorem cursor_never_leaves_text_of_accent :
    let source := "'é\\'"
    let bytes := encoded source.toList
    let cursor := (ofText source).run [.advance]
    let final := (ofText source).run [.advanceBy 2, .advanceChar, .skipQuoted 0x5C]
    bytes = [0x27, 0xC3, 0xA9, 0x5C, 0x27] ∧ bytes.length ≤ 2 ^ 64 - 1 ∧
      (cursor.advanceBy (2 ^ 64 - 1)).position =
        min (min (cursor.position + (2 ^ 64 - 1)) (2 ^ 64 - 1)) bytes.length ∧
      (cursor.skipQuoted 0xA9).1 = true ∧
      (∃ before, (cursor.skipQuoted 0xA9).2.position = before + 1 ∧
        bytes[before]? = some 0xA9) ∧
      (cursor.skipQuoted 0x27).1 = false ∧
      (cursor.skipQuoted 0x27).2.position = bytes.length ∧
      searchQuote? bytes 0xA9 cursor.position = some (true, 3) ∧
      final.position = bytes.length ∧ final.run [.advance, .skipQuoted 0x27] = final := by
  intro source bytes cursor final
  -- The bytes of the text and the four cursors are computed.
  have written : bytes = [0x27, 0xC3, 0xA9, 0x5C, 0x27] := by
    show encoded "'é\\'".toList = _
    cbv
  have place : cursor = ⟨1, [0xC3, 0xA9, 0x5C, 0x27]⟩ := by
    show (ofText "'é\\'").run [.advance] = _
    cbv
  have closing : cursor.skipQuoted 0xA9 = (true, ⟨3, [0x5C, 0x27]⟩) := by
    rw [place]
    cbv
  have hidden : cursor.skipQuoted 0x27 = (false, ⟨5, []⟩) := by
    rw [place]
    cbv
  have last : final = ⟨5, []⟩ := by
    show (ofText "'é\\'").run [.advanceBy 2, .advanceChar, .skipQuoted 0x5C] = _
    cbv
  -- The conditions of the statement hold of them.
  have short : bytes.length ≤ 2 ^ 64 - 1 := by rw [written]; decide
  have closed : (cursor.skipQuoted 0xA9).1 = true := by rw [closing]
  have unclosed : (cursor.skipQuoted 0x27).1 = false := by rw [hidden]
  have ended : final.position = bytes.length := by rw [last, written]; rfl
  obtain ⟨-, -, -, -, -, clamped, searched, behind, passed, -⟩ :=
    cursor_never_leaves_text source [.advance]
  obtain ⟨-, -, -, -, -, -, -, -, -, still⟩ :=
    cursor_never_leaves_text source [.advanceBy 2, .advanceChar, .skipQuoted 0x5C]
  refine ⟨written, short, clamped _ _ short, closed, behind _ closed, unclosed, passed _ unclosed,
    ?_, ended, (still ended).2.2 _⟩
  rw [searched, closing]
  rfl

end ByteCursor

end Motif
