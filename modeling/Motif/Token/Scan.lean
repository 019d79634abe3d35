import Motif.Text.Quotation
import Motif.Token

/-! Splitting pattern text into tokens. -/

namespace Motif

/-- Whether a character is one of the five blanks that separate tokens. -/
def isBlank (char : Char) : Bool :=
  char == ' ' || char == '\t' || char == '\n' || char == '\x0c' || char == '\r'

/-- Whether an identifier can begin with a character; only ASCII letters count. -/
def isIdentifierStart (char : Char) : Bool :=
  char.isAlpha || char == '_'

/-- Whether an identifier can go on with a character. -/
def isIdentifierRest (char : Char) : Bool :=
  char.isAlphanum || char == '_'

/-- Whether a text has a first character and that one passes a test. -/
def begins (test : Char → Bool) : List Char → Bool
  | [] => false
  | first :: _ => test first

/-- A text that begins with a character of some kind has that character in front. -/
theorem exists_of_begins {test : Char → Bool} {text : List Char}
    (passes : begins test text = true) :
    ∃ first rest, text = first :: rest ∧ test first = true := by
  cases text with
  | nil => cases passes
  | cons first rest => exact ⟨first, rest, rfl, passes⟩

namespace Token

/-- A token that starts with `taken` and goes on while `keep` holds, with the text behind it. -/
def run (tag : TokenTag) (taken : List Char) (keep : Char → Bool) (text : List Char) :
    Token × List Char :=
  (⟨tag, taken ++ text.takeWhile keep⟩, text.dropWhile keep)

/-- The fraction of a number, when a point and a digit follow its whole part. -/
def scanFraction (whole : List Char) : List Char → Token × List Char
  | '.' :: digit :: rest =>
    -- A point that no digit follows is left for the next token.
    if digit.isDigit then run .float (whole ++ ['.', digit]) Char.isDigit rest
    else (⟨.integer, whole⟩, '.' :: digit :: rest)
  | text => (⟨.integer, whole⟩, text)

/-- A number whose first characters were already taken. -/
def scanNumber (taken text : List Char) : Token × List Char :=
  scanFraction (taken ++ text.takeWhile Char.isDigit) (text.dropWhile Char.isDigit)

/-- A quotation whose opening quote was already taken. -/
def scanQuotation (quote : Char) (text : List Char) : Token × List Char :=
  match closeQuotation? quote text with
  | some (body, rest) => (⟨.quotation, quote :: (body ++ [quote])⟩, rest)
  -- Without a closing quote the whole rest of the text is one token.
  | none => (⟨.unterminated, quote :: text⟩, [])

/-- The token that is one given character. -/
def punctuation? : Char → Option TokenTag
  | '(' => some .leftParen
  | ')' => some .rightParen
  | '[' => some .leftBracket
  | ']' => some .rightBracket
  | ',' => some .comma
  | '\\' => some .pathSeparator
  | _ => none

/-- The token at the front of the text `first :: rest`, with the text behind it. -/
def scan (first : Char) (rest : List Char) : Token × List Char :=
  match punctuation? first with
  | some tag => (⟨tag, [first]⟩, rest)
  | none =>
    if first = ':' then
      -- Two colons are one token, so that a single colon never stands before another.
      if begins (· == ':') rest then (⟨.pathSeparator, [':', ':']⟩, rest.tail)
      else (⟨.colon, [':']⟩, rest)
    else if first = '"' ∨ first = '\'' then scanQuotation first rest
    -- A minus sign is part of a number, and otherwise not known at all.
    else if first.isDigit ∨ first = '-' ∧ begins Char.isDigit rest then scanNumber [first] rest
    -- An underscore that an identifier could go on from is the start of that identifier.
    else if first = '_' ∧ ¬ begins isIdentifierRest rest then (⟨.underscore, ['_']⟩, rest)
    else if isIdentifierStart first then run .identifier [first] isIdentifierRest rest
    else if isBlank first then run .whitespace [first] isBlank rest
    else (⟨.unknown, [first]⟩, rest)

/-- The next token of a text with the text behind it. -/
def next : List Char → Token × List Char
  -- At the end there is always one more end.
  | [] => (finish, [])
  | first :: rest => scan first rest

/-- A run takes what its test holds for and leaves all that follows. -/
private theorem run_append (tag : TokenTag) (taken : List Char) (keep : Char → Bool)
    (text : List Char) :
    (run tag taken keep text).1.chars ++ (run tag taken keep text).2 = taken ++ text := by
  simp [run]

/-- Whether or not a fraction follows, no character is lost. -/
private theorem scanFraction_append (whole text : List Char) :
    (scanFraction whole text).1.chars ++ (scanFraction whole text).2 = whole ++ text := by
  fun_cases scanFraction whole text <;> simp [run]

/-- Whether or not it is closed, a quotation loses no character. -/
private theorem scanQuotation_append (quote : Char) (text : List Char) :
    (scanQuotation quote text).1.chars ++ (scanQuotation quote text).2 = quote :: text := by
  -- A closing quote is found between the body and the rest, and otherwise nothing is left.
  unfold scanQuotation
  cases closed : closeQuotation? quote text with
  | none => simp
  | some parts => simp [← closeQuotation?_append closed]

/-- A token and the text behind it make up the text it was read from. -/
theorem scan_append (first : Char) (rest : List Char) :
    (scan first rest).1.chars ++ (scan first rest).2 = first :: rest := by
  -- In every case the token takes characters from the front of the text.
  fun_cases scan first rest <;>
    simp_all [run_append, scanNumber, scanFraction_append, scanQuotation_append]
  -- Two colons take the second character too, which is known to be a colon.
  rename_i colon
  cases rest with
  | nil => simp [begins] at colon
  | cons second behind => simp_all [begins]

/-- Every token covers at least one character. -/
theorem scan_chars_ne_nil (first : Char) (rest : List Char) :
    (scan first rest).1.chars ≠ [] := by
  have fraction (whole text : List Char) (some : whole ≠ []) :
      (scanFraction whole text).1.chars ≠ [] := by
    fun_cases scanFraction whole text <;> simp [run, some]
  have quotation (quote : Char) (text : List Char) :
      (scanQuotation quote text).1.chars ≠ [] := by
    unfold scanQuotation
    split <;> simp
  -- Every other case begins its token with the character that it looked at.
  fun_cases scan first rest <;> simp [run, scanNumber, fraction, quotation]

/-- The text behind a token is shorter than the text it was read from. -/
theorem scan_shorter (first : Char) (rest : List Char) :
    (scan first rest).2.length < (first :: rest).length := by
  -- Token and rest share out the characters, and the token has at least one of them.
  have total := congrArg List.length (scan_append first rest)
  have some := List.length_pos_iff.mpr (scan_chars_ne_nil first rest)
  simp only [List.length_append] at total
  omega

/-- The tokens of a text, in order and without the end. -/
def ofChars : List Char → List Token
  | [] => []
  | first :: rest => (scan first rest).1 :: ofChars (scan first rest).2
termination_by text => text.length
decreasing_by exact scan_shorter first rest

/-- The tokens of a text with the end behind them. -/
def tokenize (text : String) : List Token :=
  ofChars text.toList ++ [finish]

end Token

end Motif
