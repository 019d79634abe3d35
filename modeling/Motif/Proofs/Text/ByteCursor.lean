import Motif.Proofs.Text.Quotation
import Motif.Text.ByteCursor

/-!
A cursor over bytes finds the end of a quotation where a reader of characters does.

No byte of another character is a quote or a backslash, and the first byte of a character tells how
many bytes it has, so a cursor passes every character as a whole.
-/

namespace Motif

/-- The bytes of a text in UTF-8. -/
def encoded (text : List Char) : List UInt8 := text.flatMap String.utf8EncodeChar

/-- The empty text has no bytes. -/
@[simp] theorem encoded_nil : encoded [] = [] := rfl

/-- The bytes of the first character stand in front of the others. -/
@[simp] theorem encoded_cons (char : Char) (rest : List Char) :
    encoded (char :: rest) = String.utf8EncodeChar char ++ encoded rest := rfl

/-- The bytes of two texts are those of the first and then those of the second. -/
@[simp] theorem encoded_append (front back : List Char) :
    encoded (front ++ back) = encoded front ++ encoded back :=
  List.flatMap_append

/-- A text has as many bytes as were counted. -/
@[simp] theorem length_encoded (text : List Char) : (encoded text).length = byteLength text := by
  induction text with
  | nil => rfl
  | cons char rest ih => simp [ih]

/-- One byte is enough for the ASCII characters and for no others. -/
theorem utf8Size_eq_one_iff {char : Char} : char.utf8Size = 1 ↔ char.val.toNat ≤ 0x7f :=
  Char.utf8Size_eq_one_iff.trans UInt32.le_iff_toNat_le

/-- The byte of an ASCII character is its code. -/
theorem toNat_toUInt8 {char : Char} (narrow : char.utf8Size = 1) :
    char.toUInt8.toNat = char.val.toNat := by
  -- The code is too small for anything to be cut off.
  have small := utf8Size_eq_one_iff.mp narrow
  exact (UInt32.toNat_toUInt8 char.val).trans (Nat.mod_eq_of_lt (by omega))

/-- No byte of a wider character is an ASCII one. -/
theorem le_of_mem_utf8EncodeChar {char : Char} {byte : UInt8} (wide : char.utf8Size ≠ 1)
    (member : byte ∈ String.utf8EncodeChar char) : 0x80 ≤ byte := by
  rw [String.utf8EncodeChar, if_neg (mt utf8Size_eq_one_iff.mpr wide)] at member
  rw [UInt8.le_iff_toNat_le]
  -- UTF-8 adds a mark of at least 0x80 to each byte of such a character.
  split_ifs at member
  all_goals
    simp only [List.mem_cons, List.not_mem_nil, or_false] at member
    rcases member with rfl | rfl | rfl | rfl
  all_goals
    simp only [UInt8.toNat_ofNat', UInt8.reduceToNat]
    omega

/-- The byte of an ASCII character is part of no other character. -/
theorem ne_of_mem_utf8EncodeChar {char other : Char} {byte : UInt8} (narrow : other.utf8Size = 1)
    (differs : char ≠ other) (member : byte ∈ String.utf8EncodeChar char) :
    byte ≠ other.toUInt8 := by
  -- A character of one byte is told by its code, and wider ones have larger bytes.
  intro same
  have code : byte.toNat = other.val.toNat := by rw [same, toNat_toUInt8 narrow]
  by_cases own : char.utf8Size = 1
  · rw [String.utf8EncodeChar_eq_singleton own, List.mem_singleton] at member
    have value : byte.toNat = char.val.toNat := by rw [member, ← toNat_toUInt8 own]; rfl
    exact differs (Char.ext (UInt32.toNat.inj (value.symm.trans code)))
  · have large := UInt8.le_iff_toNat_le.mp (le_of_mem_utf8EncodeChar own member)
    have small := utf8Size_eq_one_iff.mp narrow
    rw [code] at large
    exact absurd small (Nat.not_le_of_lt large)

namespace ByteCursor

variable {position : Nat}

/-- The first byte of a character tells how many bytes it has. -/
theorem leadWidth_utf8EncodeChar (char : Char) :
    ∃ first others, String.utf8EncodeChar char = first :: others ∧
      leadWidth first = char.utf8Size := by
  have size : char.utf8Size = if char.val.toNat ≤ 0x7f then 1 else
      if char.val.toNat ≤ 0x7ff then 2 else if char.val.toNat ≤ 0xffff then 3 else 4 := rfl
  rw [size, String.utf8EncodeChar]
  -- Size and bytes go by the same bounds, and each leaves its own range for the first byte.
  split_ifs
  all_goals
    refine ⟨_, _, rfl, ?_⟩
    simp only [leadWidth, UInt8.le_iff_toNat_le, UInt8.toNat_ofNat', UInt8.reduceToNat]
    split_ifs <;> omega

/-- Moving on by the bytes in front leaves those behind them. -/
theorem advanceBy_append (front back : List UInt8) :
    advanceBy front.length ⟨position, front ++ back⟩ = ⟨position + front.length, back⟩ := by
  -- As many bytes are dropped as there are in front.
  simp [advanceBy]

/-- The place behind a part of a text is reached by moving on by the bytes of that part. -/
theorem advanceBy_ofText {source : String} {front back : List Char}
    (split : source.toList = front ++ back) :
    (ofText source).advanceBy (byteLength front) = ⟨byteLength front, encoded back⟩ := by
  -- The bytes in front are counted, and they are dropped with that count.
  have bytes : ofText source = ⟨0, encoded (front ++ back)⟩ := by
    rw [← split]
    rfl
  rw [bytes, encoded_append, ← length_encoded, advanceBy_append, Nat.zero_add]

/-- A character is passed as a whole. -/
theorem advanceChar_append (char : Char) (rest : List UInt8) :
    advanceChar ⟨position, String.utf8EncodeChar char ++ rest⟩ =
      ⟨position + char.utf8Size, rest⟩ := by
  -- The first byte is there to tell how many are to be passed.
  obtain ⟨first, others, bytes, width⟩ := leadWidth_utf8EncodeChar char
  have lead : current ⟨position, String.utf8EncodeChar char ++ rest⟩ = first := by
    rw [bytes]
    rfl
  rw [advanceChar, lead, width, ← String.length_utf8EncodeChar, advanceBy_append]

/-- At the end there is no character to pass. -/
theorem advanceChar_nil : advanceChar ⟨position, []⟩ = ⟨position, []⟩ := by
  -- Where no bytes are left none are dropped.
  simp [advanceChar, advanceBy]

variable {quote : UInt8}

/-- At the end the search has failed. -/
theorem skipQuoted_nil : skipQuoted quote ⟨position, []⟩ = (false, ⟨position, []⟩) := by
  -- It asks whether bytes are left before it looks at one.
  rw [skipQuoted, dif_pos rfl]

/-- A byte is escaped, ends the search or is passed. -/
theorem skipQuoted_cons (byte : UInt8) (rest : List UInt8) :
    skipQuoted quote ⟨position, byte :: rest⟩ =
      if byte = backslash then skipQuoted quote (advanceChar ⟨position + 1, rest⟩)
      else if byte = quote then (true, ⟨position + 1, rest⟩)
      else skipQuoted quote ⟨position + 1, rest⟩ := by
  -- Some byte is left, so the search looks at it.
  have next : advance ⟨position, byte :: rest⟩ = ⟨position + 1, rest⟩ := by
    simp [advance, advanceBy]
  rw [skipQuoted, dif_neg (by simp), next]
  rfl

/-- Bytes other than the quote and the backslash are passed one by one. -/
theorem skipQuoted_append {bytes : List UInt8} (rest : List UInt8)
    (plain : ∀ byte ∈ bytes, byte ≠ backslash ∧ byte ≠ quote) :
    skipQuoted quote ⟨position, bytes ++ rest⟩ =
      skipQuoted quote ⟨position + bytes.length, rest⟩ := by
  -- Neither test holds for the first byte, and then it is the turn of the others.
  induction bytes generalizing position with
  | nil => rfl
  | cons byte others ih =>
    obtain ⟨⟨single, bare⟩, plain⟩ := List.forall_mem_cons.mp plain
    rw [List.cons_append, skipQuoted_cons, if_neg single, if_neg bare, ih plain,
      List.length_cons, Nat.add_assoc, Nat.add_comm 1]

variable {mark : Char}

/-- A cursor stops behind the quote that ends the search among characters, or at the end. -/
theorem skipQuoted_encoded (narrow : mark.utf8Size = 1) (single : mark ≠ '\\')
    (text : List Char) :
    skipQuoted mark.toUInt8 ⟨position, encoded text⟩ =
      match closeQuotation? mark text with
      | some (body, after) => (true, ⟨position + (byteLength body + 1), encoded after⟩)
      | none => (false, ⟨position + byteLength text, []⟩) := by
  -- The search goes by characters, and a cursor passes the bytes of each one before the next.
  have slash : String.utf8EncodeChar '\\' = [backslash] := by decide
  have slashNarrow : '\\'.utf8Size = 1 := by decide
  fun_induction closeQuotation? mark text generalizing position with
  | case1 => exact skipQuoted_nil
  | case2 escaped rest ih =>
    rw [encoded_cons, encoded_cons, slash, List.singleton_append, skipQuoted_cons, if_pos rfl,
      advanceChar_append, ih]
    cases closeQuotation? mark rest <;> simp [slashNarrow, Nat.add_assoc]
  | case3 rest unescaped =>
    have bytes : String.utf8EncodeChar mark = [mark.toUInt8] :=
      String.utf8EncodeChar_eq_singleton narrow
    have other : mark.toUInt8 ≠ backslash :=
      ne_of_mem_utf8EncodeChar slashNarrow single (by simp [bytes])
    rw [encoded_cons, bytes, List.singleton_append, skipQuoted_cons, if_neg other, if_pos rfl]
    rfl
  | case4 char rest unescaped bare ih =>
    by_cases last : char = '\\'
    · -- A backslash that escapes nothing is the last character.
      subst last
      cases rest with
      | cons escaped others => exact absurd rfl (unescaped escaped others rfl)
      | nil =>
        rw [encoded_cons, slash, List.singleton_append, skipQuoted_cons, if_pos rfl, encoded_nil,
          advanceChar_nil, skipQuoted_nil]
        simp [closeQuotation?, slashNarrow]
    · have plain (byte : UInt8) (member : byte ∈ String.utf8EncodeChar char) :
          byte ≠ backslash ∧ byte ≠ mark.toUInt8 :=
        ⟨ne_of_mem_utf8EncodeChar slashNarrow last member,
          ne_of_mem_utf8EncodeChar narrow bare member⟩
      rw [encoded_cons, skipQuoted_append _ plain, ih]
      cases closeQuotation? mark rest <;> simp [Nat.add_assoc]

end ByteCursor

end Motif
