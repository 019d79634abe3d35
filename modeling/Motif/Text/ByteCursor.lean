/-! A cursor over the bytes of a text, which reads zero past the end and never runs out of it. -/

namespace Motif

/-- A place in a text: how many bytes were passed and which bytes lie ahead. -/
structure ByteCursor where
  position : Nat
  ahead : List UInt8
  deriving DecidableEq

namespace ByteCursor

/-- The cursor before the first byte of a text. -/
def ofText (text : String) : ByteCursor :=
  ⟨0, text.toList.flatMap String.utf8EncodeChar⟩

/-- Whether every byte has been passed. -/
def atEnd (cursor : ByteCursor) : Bool :=
  cursor.ahead.isEmpty

/-- The byte at the cursor, zero at the end. -/
def current (cursor : ByteCursor) : UInt8 :=
  cursor.ahead.headD 0

/-- The byte behind the current one, zero where there is none. -/
def peek (cursor : ByteCursor) : UInt8 :=
  cursor.ahead.tail.headD 0

/-- Moves on by `count` bytes, stopping at the end. -/
def advanceBy (count : Nat) (cursor : ByteCursor) : ByteCursor :=
  -- The position counts only bytes that were there to be passed.
  ⟨cursor.position + min count cursor.ahead.length, cursor.ahead.drop count⟩

/-- Moves on by one byte, stopping at the end. -/
def advance (cursor : ByteCursor) : ByteCursor :=
  cursor.advanceBy 1

/-- The width of the character that a leading byte opens; any other byte stands for itself. -/
def leadWidth (byte : UInt8) : Nat :=
  if 0xF0 ≤ byte then 4
  else if 0xE0 ≤ byte then 3
  else if 0xC0 ≤ byte then 2
  -- ASCII, and also a byte from the middle of a character.
  else 1

/-- No byte opens a character without bytes. -/
theorem leadWidth_pos (byte : UInt8) : 0 < leadWidth byte := by
  unfold leadWidth
  grind

/-- Moves on by the character that the current byte opens. -/
def advanceChar (cursor : ByteCursor) : ByteCursor :=
  cursor.advanceBy (leadWidth cursor.current)

/-- Moves on while the current byte passes a test. -/
def eatWhile (keep : UInt8 → Bool) (cursor : ByteCursor) : ByteCursor :=
  ⟨cursor.position + (cursor.ahead.takeWhile keep).length, cursor.ahead.dropWhile keep⟩

/-- The byte that takes its meaning from the character behind it. -/
def backslash : UInt8 := 0x5C

/-- Advancing leaves fewer bytes ahead, where there are any. -/
theorem advanceBy_shorter {count : Nat} {cursor : ByteCursor} (moves : 0 < count)
    (more : cursor.ahead ≠ []) :
    (cursor.advanceBy count).ahead.length < cursor.ahead.length := by
  -- At least one byte is dropped from a list that holds one.
  have := List.length_pos_iff.mpr more
  simp only [advanceBy, List.length_drop]
  omega

/-- Advancing never leaves more bytes ahead. -/
theorem advanceBy_length_le (count : Nat) (cursor : ByteCursor) :
    (cursor.advanceBy count).ahead.length ≤ cursor.ahead.length := by
  simp [advanceBy]

/-- Moves behind the next `quote` that no backslash escapes, or to the end if there is none. -/
def skipQuoted (quote : UInt8) (cursor : ByteCursor) : Bool × ByteCursor :=
  if _ : cursor.ahead = [] then (false, cursor)
  -- A backslash hides the whole character behind it, even where it is itself the quote.
  else if cursor.current = backslash then skipQuoted quote cursor.advance.advanceChar
  else if cursor.current = quote then (true, cursor.advance)
  else skipQuoted quote cursor.advance
termination_by cursor.ahead.length
decreasing_by
  -- Both ways on pass the byte that was looked at.
  · exact Nat.lt_of_le_of_lt (advanceBy_length_le _ _) (advanceBy_shorter Nat.one_pos ‹_›)
  · exact advanceBy_shorter Nat.one_pos ‹_›

end ByteCursor

end Motif
