import Motif.Proofs.Text.ByteCursor
import Motif.Proofs.Token.Classes
import Motif.RawToken

/-!
Reading the bytes of a text gives the tokens that reading its characters gives.

Every test that bytes are put to is told by the characters they encode: an ASCII character passes
when its byte does, and a wider one never passes, because none of its bytes does.
-/

namespace Motif

/-- What holds of the first 128 characters holds of every character of one byte. -/
theorem forall_narrow {p : Char → Prop} (each : ∀ code < 128, p (.ofNat code)) :
    ∀ char : Char, char.utf8Size = 1 → p char := by
  -- A character of one byte has one of the first 128 codes.
  intro char narrow
  have own := each char.toNat (Nat.lt_succ_of_le (utf8Size_eq_one_iff.mp narrow))
  rwa [Char.ofNat_toNat] at own

/-- What holds of the last 128 bytes holds of every byte of a wider character. -/
theorem forall_high {p : UInt8 → Prop} (each : ∀ code < 128, p (.ofNat (128 + code))) :
    ∀ byte : UInt8, 0x80 ≤ byte → p byte := by
  -- Such a byte is 128 and something less than 128.
  intro byte large
  have bound : 128 ≤ byte.toNat := UInt8.le_iff_toNat_le.mp large
  have own := each (byte.toNat - 128) (by have := byte.toNat_lt; omega)
  rwa [Nat.add_sub_cancel' bound, UInt8.ofNat_toNat] at own

/-- A test of bytes that is told by the characters that the bytes encode. -/
structure Mirrors (keep : UInt8 → Bool) (test : Char → Bool) : Prop where
  /-- A character of one byte passes when that byte does. -/
  narrow : ∀ char : Char, char.utf8Size = 1 → keep char.toUInt8 = test char
  /-- No wider character passes. -/
  wide : ∀ char : Char, char.utf8Size ≠ 1 → test char = false
  /-- No byte of a wider character passes. -/
  high : ∀ byte : UInt8, 0x80 ≤ byte → keep byte = false

/-- A wider character lies beyond ASCII. -/
theorem lt_of_wide {char : Char} (wide : char.utf8Size ≠ 1) : 0x7f < char.toNat :=
  Nat.lt_of_not_le (mt utf8Size_eq_one_iff.mpr wide)

/-- The byte `0x30 + n` is the digit `n`. -/
theorem mirrors_digit : Mirrors isDigitByte Char.isDigit where
  narrow := forall_narrow (by decide +kernel)
  wide char wide := by
    have := lt_of_wide wide
    simp [Char.isDigit, UInt32.le_iff_toNat_le]
    omega
  high := forall_high (by decide +kernel)

/-- The letters of either case have the bytes of two ranges. -/
theorem mirrors_letter : Mirrors isLetterByte Char.isAlpha where
  narrow := forall_narrow (by decide +kernel)
  wide char wide := by
    have := lt_of_wide wide
    simp [Char.isAlpha, Char.isUpper, Char.isLower, UInt32.le_iff_toNat_le]
    omega
  high := forall_high (by decide +kernel)

/-- Either of two tests is told by the characters when both are. -/
theorem Mirrors.or {keep other : UInt8 → Bool} {test alike : Char → Bool}
    (first : Mirrors keep test) (second : Mirrors other alike) :
    Mirrors (fun byte => keep byte || other byte) (fun char => test char || alike char) where
  narrow char narrow := by rw [first.narrow char narrow, second.narrow char narrow]
  wide char wide := by rw [first.wide char wide, second.wide char wide]; rfl
  high byte large := by rw [first.high byte large, second.high byte large]; rfl

variable {char other : Char}

/-- The byte of an ASCII character stands for that one alone. -/
theorem toUInt8_eq_iff (narrow : char.utf8Size = 1) (own : other.utf8Size = 1) :
    char.toUInt8 = other.toUInt8 ↔ char = other := by
  -- If the characters differed, one would have a byte of the other.
  refine ⟨fun same => ?_, fun same => by rw [same]⟩
  by_contra differs
  exact ne_of_mem_utf8EncodeChar own differs
    (by rw [String.utf8EncodeChar_eq_singleton narrow]; exact List.mem_singleton_self _) same

/-- The byte of an ASCII character lies below those of wider characters. -/
theorem toUInt8_lt (narrow : char.utf8Size = 1) : char.toUInt8 < 0x80 := by
  -- Its byte is its code, and that is one of the first 128.
  rw [UInt8.lt_iff_toNat_lt, toNat_toUInt8 narrow]
  exact Nat.lt_succ_of_le (utf8Size_eq_one_iff.mp narrow)

/-- One ASCII character is told by its byte. -/
theorem mirrors_char (other : Char) (own : other.utf8Size = 1) :
    Mirrors (· == other.toUInt8) (· == other) where
  narrow char narrow := by
    rw [Bool.eq_iff_iff, beq_iff_eq, beq_iff_eq]
    exact toUInt8_eq_iff narrow own
  wide char wide := by
    rw [beq_eq_false_iff_ne]
    exact fun same => wide (same ▸ own)
  high byte large := by
    rw [beq_eq_false_iff_ne]
    exact fun same => absurd (same ▸ large) (UInt8.not_le.mpr (toUInt8_lt own))

/-- What begins an identifier, told by bytes and by characters. -/
theorem mirrors_identifierStart : Mirrors isIdentifierStartByte isIdentifierStart :=
  mirrors_letter.or (mirrors_char '_' rfl)

/-- What goes on an identifier, told by bytes and by characters. -/
theorem mirrors_identifierRest : Mirrors isIdentifierRestByte isIdentifierRest :=
  (mirrors_letter.or mirrors_digit).or (mirrors_char '_' rfl)

/-- The five blanks, told by bytes and by characters. -/
theorem mirrors_blank : Mirrors isBlankByte isBlank :=
  ((((mirrors_char ' ' rfl).or (mirrors_char '\t' rfl)).or (mirrors_char '\n' rfl)).or
    (mirrors_char '\x0c' rfl)).or (mirrors_char '\r' rfl)

namespace ByteCursor

variable {position : Nat} {keep : UInt8 → Bool} {test : Char → Bool}

/-- The first byte of a text passes a test when the first character does. -/
theorem current_encoded (position : Nat) (mirrors : Mirrors keep test) (zero : keep 0 = false)
    (text : List Char) : keep (current ⟨position, encoded text⟩) = begins test text := by
  cases text with
  -- Past the end a zero is read, and no test lets it pass.
  | nil => exact zero
  | cons first rest =>
    -- The first byte is all of the first character, or it is one that no test lets pass.
    by_cases narrow : first.utf8Size = 1
    · rw [encoded_cons, String.utf8EncodeChar_eq_singleton narrow]
      exact mirrors.narrow first narrow
    · obtain ⟨lead, others, bytes, -⟩ := leadWidth_utf8EncodeChar first
      have large : 0x80 ≤ lead := le_of_mem_utf8EncodeChar narrow (by simp [bytes])
      rw [encoded_cons, bytes, begins, mirrors.wide first narrow]
      exact mirrors.high lead large

/-- A run over bytes takes the bytes of the characters that a run over characters takes. -/
theorem eatWhile_encoded (mirrors : Mirrors keep test) (text : List Char) :
    eatWhile keep ⟨position, encoded text⟩ =
      ⟨position + byteLength (text.takeWhile test), encoded (text.dropWhile test)⟩ := by
  have parts : (encoded text).takeWhile keep = encoded (text.takeWhile test) ∧
      (encoded text).dropWhile keep = encoded (text.dropWhile test) := by
    induction text with
    | nil => exact ⟨rfl, rfl⟩
    | cons first rest ih =>
      by_cases narrow : first.utf8Size = 1
      · -- The run goes on behind the one byte of this character, or ends before it.
        have own := mirrors.narrow first narrow
        have bytes := String.utf8EncodeChar_eq_singleton narrow
        cases passes : test first <;> simp [bytes, own, passes, ih]
      · obtain ⟨lead, others, bytes, -⟩ := leadWidth_utf8EncodeChar first
        have large : 0x80 ≤ lead := le_of_mem_utf8EncodeChar narrow (by simp [bytes])
        simp [bytes, mirrors.wide first narrow, mirrors.high lead large]
  simp only [eatWhile, parts, length_encoded]

/-- What reading characters gives, told as a cursor over their bytes tells it. -/
def behind (position : Nat) (scanned : Token × List Char) : TokenTag × ByteCursor :=
  (scanned.1.tag, ⟨position + byteLength scanned.1.chars, encoded scanned.2⟩)

/-- A run over bytes ends the token that a run over characters ends. -/
theorem run_encoded (position : Nat) (mirrors : Mirrors keep test) (tag : TokenTag)
    (taken text : List Char) :
    (tag, eatWhile keep ⟨position + byteLength taken, encoded text⟩) =
      behind position (Token.run tag taken test text) := by
  -- The position is moved by what was taken before and by what the run takes.
  rw [eatWhile_encoded mirrors, behind, Token.run, byteLength_append, Nat.add_assoc]

/-- A run that takes its first character goes on behind it. -/
theorem run_cons {tag : TokenTag} {taken : List Char} {first : Char} (passes : test first = true)
    (rest : List Char) :
    Token.run tag taken test (first :: rest) = Token.run tag (taken ++ [first]) test rest := by
  -- A run takes all characters that pass, and the first one does.
  simp [Token.run, passes]

/-- Behind digits a fraction is found in bytes where it is found in characters. -/
theorem scanFraction_encoded (whole after : List Char) :
    (let cursor : ByteCursor := ⟨position + byteLength whole, encoded after⟩
      if cursor.current = '.'.toUInt8 ∧ isDigitByte cursor.peek then
        (.float, cursor.advance.eatWhile isDigitByte)
      else (.integer, cursor)) = behind position (Token.scanFraction whole after) := by
  -- The byte at the cursor and the one behind it stand for the first two characters.
  have point (text : List Char) :=
    current_encoded (position + byteLength whole) (mirrors_char '.' rfl) rfl text
  have digit (rest : List Char) :
      isDigitByte (peek ⟨position + byteLength whole, encoded ('.' :: rest)⟩) =
        begins Char.isDigit rest :=
    current_encoded (position + byteLength whole + 1) mirrors_digit rfl rest
  fun_cases Token.scanFraction whole after with
  | case1 next rest passes =>
    -- The digit behind the point is the first that the fraction takes.
    have fraction := run_encoded position mirrors_digit .float (whole ++ ['.'])
      (next :: rest)
    rw [run_cons passes, List.append_assoc, byteLength_append, ← Nat.add_assoc] at fraction
    exact (if_pos ⟨rfl, (digit (next :: rest)).trans passes⟩).trans fraction
  | case2 next rest other =>
    exact if_neg fun found => other ((digit (next :: rest)).symm.trans found.2)
  | case3 _ other =>
    refine if_neg fun found => ?_
    obtain ⟨_, rest, rfl, same⟩ := exists_of_begins ((point after).symm.trans (by simp [found.1]))
    obtain rfl := beq_iff_eq.mp same
    obtain ⟨next, others, rfl, _⟩ := exists_of_begins ((digit rest).symm.trans found.2)
    exact other next others rfl

/-- The bytes of a number make the token that its characters make. -/
theorem scanNumber_encoded (taken text : List Char) :
    scanNumber ⟨position + byteLength taken, encoded text⟩ =
      behind position (Token.scanNumber taken text) := by
  -- Digits are passed first, and behind them there may be a fraction.
  rw [scanNumber, eatWhile_encoded mirrors_digit, Token.scanNumber, Nat.add_assoc,
    ← byteLength_append]
  exact scanFraction_encoded _ _

/-- The bytes of a quotation make the token that its characters make. -/
theorem scanQuotation_encoded {mark : Char} (quote : mark = '"' ∨ mark = '\'') (text : List Char) :
    scanQuotation mark.toUInt8 ⟨position + 1, encoded text⟩ =
      behind position (Token.scanQuotation mark text) := by
  -- Both searches end at the same quote, or at the end of the text.
  have narrow := utf8Size_of_quote quote
  rw [scanQuotation, skipQuoted_encoded narrow (ne_backslash_of_quote quote), Token.scanQuotation]
  cases closeQuotation? mark text with
  | none => simp [behind, narrow, Nat.add_assoc]
  | some parts => simp [behind, narrow]; omega

/-- A cursor at a character of one byte, with a text behind that character. -/
def before (position : Nat) (first : Char) (rest : List Char) : ByteCursor :=
  ⟨position, first.toUInt8 :: encoded rest⟩

variable {first : Char} {rest : List Char}

/-- Such a cursor has the bytes of a text ahead. -/
theorem before_eq (narrow : first.utf8Size = 1) :
    before position first rest = ⟨position, encoded (first :: rest)⟩ := by
  -- Its one byte is all that it is encoded as.
  rw [encoded_cons, String.utf8EncodeChar_eq_singleton narrow]
  rfl

/-- Behind that character the bytes of the other characters are ahead. -/
theorem advance_before :
    advance (before position first rest) = ⟨position + 1, encoded rest⟩ :=
  advanceBy_append [first.toUInt8] (encoded rest)

/-- A look beyond that character tells what the text behind it begins with. -/
theorem peek_before (position : Nat) (first : Char) (rest : List Char)
    (mirrors : Mirrors keep test) (zero : keep 0 = false) :
    keep (peek (before position first rest)) = begins test rest :=
  current_encoded (position + 1) mirrors zero rest

/-- A run that takes that character goes on with the text behind it. -/
theorem run_before (narrow : first.utf8Size = 1) (mirrors : Mirrors keep test) (tag : TokenTag)
    (passes : test first = true) :
    (tag, eatWhile keep (before position first rest)) =
      behind position (Token.run tag [first] test rest) := by
  -- The character is the first that the run takes.
  rw [← List.nil_append [first], ← run_cons passes, before_eq narrow]
  exact run_encoded position mirrors tag [] (first :: rest)

/-- A number that begins with that character goes on with the text behind it. -/
theorem scanNumber_before (narrow : first.utf8Size = 1) (digit : first.isDigit = true) :
    scanNumber (before position first rest) = behind position (Token.scanNumber [first] rest) := by
  -- The digit is the first that the number takes.
  have whole : Token.scanNumber [first] rest = Token.scanNumber [] (first :: rest) := by
    simp [Token.scanNumber, digit]
  rw [whole, before_eq narrow]
  exact scanNumber_encoded [] (first :: rest)

/-- A character of one byte opens the token that its byte opens. -/
theorem scan_before (narrow : first.utf8Size = 1) :
    scan (before position first rest) = behind position (Token.scan first rest) := by
  -- All tests are put to the first byte or to the one behind it, and characters answer them alike.
  have here : current (before position first rest) = first.toUInt8 := rfl
  have more : atEnd (before position first rest) = false := rfl
  have same (other : Char) (own : other.utf8Size = 1) := toUInt8_eq_iff narrow own
  have punctuation : punctuationByte? first.toUInt8 = Token.punctuation? first :=
    forall_narrow (p := fun char => punctuationByte? char.toUInt8 = Token.punctuation? char)
      (by decide +kernel) first narrow
  have colon : peek (before position first rest) = ':'.toUInt8 ↔
      begins (· == ':') rest = true := by
    rw [← peek_before position first rest (mirrors_char ':' rfl) rfl, beq_iff_eq]
  have single (tag : TokenTag) :
      (tag, ⟨position + 1, encoded rest⟩) = behind position (⟨tag, [first]⟩, rest) := by
    rw [behind, byteLength_cons, narrow]
    rfl
  simp only [scan, here, more, Bool.false_eq_true, ↓reduceIte, advance_before, punctuation, colon,
    same ':' rfl, same '"' rfl, same '\'' rfl, same '-' rfl, same '_' rfl,
    peek_before position first rest mirrors_digit rfl,
    peek_before position first rest mirrors_identifierRest rfl,
    mirrors_digit.narrow first narrow, mirrors_identifierStart.narrow first narrow,
    mirrors_blank.narrow first narrow]
  have onward : position + byteLength [first] = position + 1 := by
    rw [byteLength_cons, narrow]
    rfl
  fun_cases Token.scan first rest with
  | case1 tag known =>
    simp only [known]
    exact single tag
  | case2 plain isColon doubled =>
    -- The second colon is passed with the first.
    subst isColon
    obtain ⟨_, others, rfl, isColon⟩ := exists_of_begins doubled
    obtain rfl := beq_iff_eq.mp isColon
    simp only [plain, doubled, if_true]
    exact congrArg (Prod.mk _) (advanceBy_append [_, _] (encoded others))
  | case3 plain isColon alone =>
    subst isColon
    simp only [plain, if_true, if_neg alone]
    exact single .colon
  | case4 plain other quote =>
    simp only [plain, if_neg other, if_pos quote]
    exact scanQuotation_encoded quote rest
  | case5 plain other bare number =>
    simp only [plain, if_neg other, if_neg bare]
    by_cases signed : first = '-' ∧ begins Char.isDigit rest = true
    · -- The sign is passed before the digits.
      rw [if_pos signed, ← onward]
      exact scanNumber_encoded [first] rest
    · have digit := number.resolve_right signed
      rw [if_neg signed, if_pos digit]
      exact scanNumber_before narrow digit
  | case6 plain other bare noNumber alone =>
    obtain ⟨noDigit, unsigned⟩ := not_or.mp noNumber
    simp only [plain, if_neg other, if_neg bare, if_neg unsigned, if_neg noDigit, if_pos alone]
    exact alone.1 ▸ single .underscore
  | case7 plain other bare noNumber more start =>
    obtain ⟨noDigit, unsigned⟩ := not_or.mp noNumber
    simp only [plain, if_neg other, if_neg bare, if_neg unsigned, if_neg noDigit, if_neg more,
      if_pos start]
    exact run_before narrow mirrors_identifierRest .identifier
      (isIdentifierRest_iff.mpr (isIdentifierStart_iff.mp start).rest)
  | case8 plain other bare noNumber more noStart blank =>
    obtain ⟨noDigit, unsigned⟩ := not_or.mp noNumber
    simp only [plain, if_neg other, if_neg bare, if_neg unsigned, if_neg noDigit, if_neg more,
      if_neg noStart, if_pos blank]
    exact run_before narrow mirrors_blank .whitespace blank
  | case9 plain other bare noNumber more noStart solid =>
    obtain ⟨noDigit, unsigned⟩ := not_or.mp noNumber
    simp only [plain, if_neg other, if_neg bare, if_neg unsigned, if_neg noDigit, if_neg more,
      if_neg noStart, if_neg solid]
    rw [before_eq narrow, encoded_cons, advanceChar_append, behind, byteLength_cons]
    rfl

/-- No token of another kind begins with a wider character. -/
theorem isStray_of_wide (wide : first.utf8Size ≠ 1) : IsStray first := by
  -- All characters that begin another token have one byte.
  have differs (other : Char) (own : other.utf8Size = 1) : first ≠ other :=
    beq_eq_false_iff_ne.mp ((mirrors_char other own).wide first wide)
  have punctuation : Token.punctuation? first = none :=
    @Token.punctuation?_eq_none (fun char => char.utf8Size != 1) first (bne_iff_ne.mpr wide)
      (by decide)
  exact Token.isStray_of_tests punctuation (differs ':' rfl)
    (not_or.mpr ⟨differs '"' rfl, differs '\'' rfl⟩)
    (Bool.eq_false_iff.mp (mirrors_digit.wide first wide))
    (Bool.eq_false_iff.mp (mirrors_identifierStart.wide first wide))
    (Bool.eq_false_iff.mp (mirrors_blank.wide first wide))

/-- A byte of a wider character passes that character as a token of its own. -/
theorem scan_of_high {cursor : ByteCursor} (large : 0x80 ≤ cursor.current)
    (more : cursor.atEnd = false) : cursor.scan = (.unknown, cursor.advanceChar) := by
  -- No byte that a branch asks for is as large, so it is the last branch that is taken.
  have differs (other : Char) (own : other.utf8Size = 1) : cursor.current ≠ other.toUInt8 :=
    beq_eq_false_iff_ne.mp ((mirrors_char other own).high _ large)
  have punctuation : punctuationByte? cursor.current = none :=
    forall_high (p := fun byte => punctuationByte? byte = none) (by decide +kernel) _ large
  simp only [scan, more, punctuation, differs ':' rfl, differs '"' rfl, differs '\'' rfl,
    differs '-' rfl, differs '_' rfl, mirrors_digit.high _ large,
    mirrors_identifierStart.high _ large, mirrors_blank.high _ large, Bool.false_eq_true, if_false,
    false_or, false_and]

/-- A wider character is a token of its own, and all its bytes are passed with the first. -/
theorem scan_wide (wide : first.utf8Size ≠ 1) :
    scan ⟨position, encoded (first :: rest)⟩ = behind position (Token.scan first rest) := by
  have unsigned : first = '-' → begins Char.isDigit rest = false := by
    intro sign
    exact absurd (sign ▸ rfl) wide
  rw [Token.scan_unknown (isStray_of_wide wide) unsigned]
  -- The first of its bytes is large, and it tells how many there are to pass.
  obtain ⟨lead, others, bytes, -⟩ := leadWidth_utf8EncodeChar first
  have large : 0x80 ≤ lead := le_of_mem_utf8EncodeChar wide (by simp [bytes])
  rw [scan_of_high (by rw [encoded_cons, bytes]; exact large) (by rw [encoded_cons, bytes]; rfl),
    encoded_cons, advanceChar_append, behind, byteLength_cons]
  rfl

/-- Reading bytes gives the token that reading characters gives. -/
theorem scan_encoded (first : Char) (rest : List Char) :
    scan ⟨position, encoded (first :: rest)⟩ = behind position (Token.scan first rest) := by
  -- A character has one byte, which all tests are about, or more of them.
  by_cases narrow : first.utf8Size = 1
  · rw [← before_eq narrow, scan_before narrow]
  · exact scan_wide narrow

end ByteCursor

/-- A token told by its kind and its bytes alone. -/
def Token.raw (token : Token) : RawToken := ⟨token.tag, token.byteLength⟩

namespace RawToken

variable {position : Nat}

/-- Where no bytes are left, the end is next. -/
theorem next_nil : next ⟨position, []⟩ = (⟨.finish, 0⟩, ⟨position, []⟩) := by
  -- Nothing is passed, so the end takes no bytes.
  have ended : ByteCursor.scan ⟨position, []⟩ = (.finish, ⟨position, []⟩) := rfl
  rw [next, ended]
  simp

/-- The next token of some bytes is that of the characters which they encode. -/
theorem next_encoded (first : Char) (rest : List Char) :
    next ⟨position, encoded (first :: rest)⟩ =
      ((Token.scan first rest).1.raw,
        ⟨position + byteLength (Token.scan first rest).1.chars,
          encoded (Token.scan first rest).2⟩) := by
  rw [next, ByteCursor.scan_encoded]
  -- The bytes of the token are those between the two positions.
  simp only [ByteCursor.behind, Nat.add_sub_cancel_left]
  rfl

/-- The tokens of some bytes are those of the characters which they encode. -/
theorem all_encoded (text : List Char) :
    all ⟨position, encoded text⟩ = (Token.ofChars text ++ [Token.finish]).map Token.raw := by
  -- Both readers go on with the text behind a token, and they end where that is empty.
  fun_induction Token.ofChars text generalizing position with
  | case1 =>
    rw [encoded_nil, all, next_nil]
    rfl
  | case2 first rest ih =>
    have more : (Token.scan first rest).1.raw.tag ≠ .finish :=
      (Token.scan_class first rest).1.tag_ne_finish
    rw [all, next_encoded, dif_neg more, ih]
    rfl

/-- Bytes and characters of a text give the same tokens. -/
theorem tokenize_eq (source : String) :
    tokenize source = (Token.tokenize source).map Token.raw :=
  all_encoded source.toList

end RawToken

end Motif
