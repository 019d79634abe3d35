import Motif.Text.ByteCursor
import Motif.Token

/-!
Tokens read from the bytes of a text, each told by its kind and by how many bytes it has.

The bytes of a wider character pass none of the tests below, so such a character ends every run.
-/

namespace Motif

/-- Whether a byte is one of the ten digits. -/
def isDigitByte (byte : UInt8) : Bool :=
  '0'.toUInt8 ≤ byte && byte ≤ '9'.toUInt8

/-- Whether a byte is a letter of either case. -/
def isLetterByte (byte : UInt8) : Bool :=
  ('a'.toUInt8 ≤ byte && byte ≤ 'z'.toUInt8) || ('A'.toUInt8 ≤ byte && byte ≤ 'Z'.toUInt8)

/-- Whether an identifier can begin with a byte. -/
def isIdentifierStartByte (byte : UInt8) : Bool :=
  isLetterByte byte || byte == '_'.toUInt8

/-- Whether an identifier can go on with a byte. -/
def isIdentifierRestByte (byte : UInt8) : Bool :=
  isLetterByte byte || isDigitByte byte || byte == '_'.toUInt8

/-- An identifier can go on with every byte that can begin one. -/
theorem isIdentifierRestByte_of_start {byte : UInt8} (start : isIdentifierStartByte byte = true) :
    isIdentifierRestByte byte = true := by
  -- Digits are all that the second test adds to the first.
  simp only [isIdentifierStartByte, isIdentifierRestByte, Bool.or_eq_true] at start ⊢
  exact start.imp_left .inl

/-- Whether a byte is one of the five blanks. -/
def isBlankByte (byte : UInt8) : Bool :=
  byte == ' '.toUInt8 || byte == '\t'.toUInt8 || byte == '\n'.toUInt8 || byte == '\x0c'.toUInt8 ||
    byte == '\r'.toUInt8

/-- The token that is one given byte. -/
def punctuationByte? (byte : UInt8) : Option TokenTag :=
  if byte = '('.toUInt8 then some .leftParen
  else if byte = ')'.toUInt8 then some .rightParen
  else if byte = '['.toUInt8 then some .leftBracket
  else if byte = ']'.toUInt8 then some .rightBracket
  else if byte = ','.toUInt8 then some .comma
  else if byte = '\\'.toUInt8 then some .pathSeparator
  else none

namespace ByteCursor

/-- The kind of the number at a cursor, with the cursor behind it. -/
def scanNumber (cursor : ByteCursor) : TokenTag × ByteCursor :=
  let whole := cursor.eatWhile isDigitByte
  -- A point that no digit follows is left for the next token.
  if whole.current = '.'.toUInt8 ∧ isDigitByte whole.peek then
    (.float, whole.advance.eatWhile isDigitByte)
  else (.integer, whole)

/-- The kind of a quotation whose opening quote was passed, with the cursor behind it. -/
def scanQuotation (quote : UInt8) (cursor : ByteCursor) : TokenTag × ByteCursor :=
  let (closed, behind) := cursor.skipQuoted quote
  (if closed then .quotation else .unterminated, behind)

/-- The kind of the token at a cursor, with the cursor behind it. -/
def scan (cursor : ByteCursor) : TokenTag × ByteCursor :=
  let byte := cursor.current
  -- At the end a byte is read as well, a zero that is not there.
  if cursor.atEnd then (.finish, cursor)
  else match punctuationByte? byte with
    | some tag => (tag, cursor.advance)
    | none =>
      if byte = ':'.toUInt8 then
        if cursor.peek = ':'.toUInt8 then (.pathSeparator, cursor.advanceBy 2)
        else (.colon, cursor.advance)
      else if byte = '"'.toUInt8 ∨ byte = '\''.toUInt8 then cursor.advance.scanQuotation byte
      else if byte = '-'.toUInt8 ∧ isDigitByte cursor.peek then cursor.advance.scanNumber
      else if isDigitByte byte then cursor.scanNumber
      else if byte = '_'.toUInt8 ∧ ¬ isIdentifierRestByte cursor.peek then
        (.underscore, cursor.advance)
      else if isIdentifierStartByte byte then (.identifier, cursor.eatWhile isIdentifierRestByte)
      else if isBlankByte byte then (.whitespace, cursor.eatWhile isBlankByte)
      -- Only here can the byte open a character that has more bytes than one.
      else (.unknown, cursor.advanceChar)

variable {cursor : ByteCursor}

/-- A run never leaves more bytes ahead. -/
theorem eatWhile_length_le (keep : UInt8 → Bool) (cursor : ByteCursor) :
    (cursor.eatWhile keep).ahead.length ≤ cursor.ahead.length :=
  (List.dropWhile_sublist keep).length_le

/-- A run that may take the current byte leaves fewer bytes ahead. -/
theorem eatWhile_shorter {keep : UInt8 → Bool} (more : cursor.ahead ≠ [])
    (passes : keep cursor.current = true) :
    (cursor.eatWhile keep).ahead.length < cursor.ahead.length := by
  obtain ⟨position, ahead⟩ := cursor
  obtain ⟨first, rest, rfl⟩ := List.exists_cons_of_ne_nil more
  -- The current byte is the first one, and the run takes it.
  have taken : (first :: rest).dropWhile keep = rest.dropWhile keep :=
    List.dropWhile_cons_of_pos passes
  simp only [eatWhile, taken, List.length_cons]
  exact Nat.lt_succ_of_le (List.dropWhile_sublist keep).length_le

/-- A search for a quote never leaves more bytes ahead. -/
theorem skipQuoted_length_le (quote : UInt8) (cursor : ByteCursor) :
    (cursor.skipQuoted quote).2.ahead.length ≤ cursor.ahead.length := by
  -- Every way on drops bytes before the search goes on with what is left.
  fun_induction skipQuoted quote cursor with
  | case1 => exact Nat.le_refl _
  | case2 cursor _ _ ih =>
    exact Nat.le_trans ih (Nat.le_trans (advanceBy_length_le _ _) (advanceBy_length_le _ _))
  | case3 => exact advanceBy_length_le _ _
  | case4 cursor _ _ _ ih => exact Nat.le_trans ih (advanceBy_length_le _ _)

/-- A number leaves no more bytes ahead than the digits in front of it do. -/
theorem scanNumber_length_le (cursor : ByteCursor) :
    cursor.scanNumber.2.ahead.length ≤ (cursor.eatWhile isDigitByte).ahead.length := by
  fun_cases scanNumber cursor
  · exact Nat.le_trans (eatWhile_length_le _ _) (advanceBy_length_le _ _)
  · exact Nat.le_refl _

/-- Every token but the end has at least one byte, whatever the bytes are. -/
theorem scan_shorter (more : cursor.scan.1 ≠ .finish) :
    cursor.scan.2.ahead.length < cursor.ahead.length := by
  have ahead : cursor.ahead ≠ [] := fun ended => more (by simp [scan, atEnd, ended])
  have passed {count : Nat} (moves : 0 < count) := advanceBy_shorter moves ahead
  have run {keep : UInt8 → Bool} (passes : keep cursor.current = true) :=
    eatWhile_shorter ahead passes
  fun_cases scan cursor with
  | case1 ended => exact absurd (List.isEmpty_iff.mp ended) ahead
  | case2 | case4 | case8 => exact passed Nat.one_pos
  | case3 => exact passed Nat.two_pos
  -- Behind the byte that opens it, a token may be as long as it likes.
  | case5 => exact Nat.lt_of_le_of_lt (skipQuoted_length_le _ _) (passed Nat.one_pos)
  | case6 =>
    exact Nat.lt_of_le_of_lt
      (Nat.le_trans (scanNumber_length_le _) (eatWhile_length_le _ _)) (passed Nat.one_pos)
  -- A run takes the byte that it was chosen for.
  | case7 _ _ _ _ _ _ digit => exact Nat.lt_of_le_of_lt (scanNumber_length_le _) (run digit)
  | case9 _ _ _ _ _ _ _ _ start => exact run (isIdentifierRestByte_of_start start)
  | case10 _ _ _ _ _ _ _ _ _ blank => exact run blank
  | case11 => exact passed (leadWidth_pos _)

end ByteCursor

/-- A token told by its kind and by the number of bytes that it covers. -/
structure RawToken where
  tag : TokenTag
  /-- Counted as far as a span can reach. -/
  length : Nat
  deriving DecidableEq

namespace RawToken

/-- The next token at a cursor, with the cursor behind it. -/
def next (cursor : ByteCursor) : RawToken × ByteCursor :=
  let (tag, behind) := cursor.scan
  (⟨tag, min (behind.position - cursor.position) Span.limit⟩, behind)

/-- The tokens from a cursor on, up to the first end. -/
def all (cursor : ByteCursor) : List RawToken :=
  -- The end is given once, although a cursor at the end would give it over and over.
  if _ : (next cursor).1.tag = .finish then [(next cursor).1]
  else (next cursor).1 :: all (next cursor).2
termination_by cursor.ahead.length
decreasing_by exact ByteCursor.scan_shorter ‹_›

/-- The tokens of a text with the end behind them. -/
def tokenize (text : String) : List RawToken :=
  all (.ofText text)

end RawToken

end Motif
