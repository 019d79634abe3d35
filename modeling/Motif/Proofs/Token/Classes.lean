import Motif.Proofs.Number.Numeral
import Motif.Proofs.Text.Quotation
import Motif.Token.Scan

/-!
What tokens look like, and where they end. The scanner gives exactly the token whose characters are
of its kind and which nothing behind it continues.
-/

namespace Motif

/-- A lowercase letter of ASCII. -/
def IsLowercase (char : Char) : Prop :=
  'a' ≤ char ∧ char ≤ 'z'

/-- A letter of ASCII. -/
def IsLetter (char : Char) : Prop :=
  IsLowercase char ∨ ('A' ≤ char ∧ char ≤ 'Z')

/-- A letter or an underscore, with which a name may begin. -/
def IsNameStart (char : Char) : Prop :=
  IsLetter char ∨ char = '_'

/-- A letter, a digit or an underscore, with which a name may go on. -/
def IsNameRest (char : Char) : Prop :=
  IsLetter char ∨ ('0' ≤ char ∧ char ≤ '9') ∨ char = '_'

/-- A space, a tab, a line feed, a form feed or a carriage return. -/
def IsBlank (char : Char) : Prop :=
  char ∈ [' ', '\t', '\n', '\x0c', '\r']

/-- A character with which no token of another kind begins, apart from a sign before a digit. -/
def IsStray (char : Char) : Prop :=
  -- What is left out is punctuation, quotes, names, numbers and blanks.
  char ∉ ['(', ')', '[', ']', ',', ':', '\\', '"', '\''] ∧ ¬ IsNameRest char ∧ ¬ IsBlank char

/-- A letter or an underscore with letters, digits and underscores behind it, but not `_` alone. -/
def IsIdentifier (chars : List Char) : Prop :=
  -- The first character decides that it is a name, and the others may be digits too.
  ∃ first rest, chars = first :: rest ∧ IsNameStart first ∧ (∀ char ∈ rest, IsNameRest char) ∧
    chars ≠ ['_']

section Characters

variable {char : Char}

/-- The test for lowercase letters is passed by these and by no other character. -/
theorem isLower_iff : char.isLower = true ↔ IsLowercase char := by
  simp [Char.isLower, IsLowercase, Char.le_def]

/-- The test for letters is passed by letters of both cases. -/
theorem isAlpha_iff : char.isAlpha = true ↔ IsLetter char := by
  -- Capital letters are tested first, which makes no difference.
  simp [Char.isAlpha, isLower_iff, IsLetter, Char.isUpper, Char.le_def, or_comm]

/-- The test for the start of an identifier is passed by letters and the underscore. -/
theorem isIdentifierStart_iff : isIdentifierStart char = true ↔ IsNameStart char := by
  simp [isIdentifierStart, isAlpha_iff, IsNameStart]

/-- The test for the rest of an identifier is passed by digits too. -/
theorem isIdentifierRest_iff : isIdentifierRest char = true ↔ IsNameRest char := by
  simp [isIdentifierRest, Char.isAlphanum, isAlpha_iff, IsNameRest, Char.isDigit, Char.le_def,
    or_assoc]

/-- The test for blanks is passed by the five of them. -/
theorem isBlank_iff : isBlank char = true ↔ IsBlank char := by
  simp [isBlank, IsBlank, or_assoc]

/-- What may begin a name may stand inside one too. -/
theorem IsNameStart.rest (start : IsNameStart char) : IsNameRest char := by
  -- Digits are all that is allowed behind the start alone.
  rcases start with letter | underscore
  · exact .inl letter
  · exact .inr (.inr underscore)

/-- A digit may stand inside a name. -/
theorem isNameRest_of_isDigit (digit : char.isDigit = true) : IsNameRest char := by
  refine .inr (.inl ?_)
  simpa [Char.isDigit, Char.le_def] using digit

end Characters

namespace Token

/-- The text that some tokens cover together. -/
def joined (tokens : List Token) : List Char := tokens.flatMap Token.chars

/-- No tokens cover no text. -/
@[simp] theorem joined_nil : joined [] = [] := rfl

/-- The text of the first token stands in front of the others. -/
@[simp] theorem joined_cons (token : Token) (rest : List Token) :
    joined (token :: rest) = token.chars ++ joined rest := rfl

/-- The text of two parts is that of the first and then that of the second. -/
@[simp] theorem joined_append (front back : List Token) :
    joined (front ++ back) = joined front ++ joined back := by
  -- Characters are collected token by token.
  simp [joined]

/-- A token whose characters are of the kind that its tag says. -/
def InClass (token : Token) : Prop :=
  match token.tag with
  | .leftParen => token.chars = ['(']
  | .rightParen => token.chars = [')']
  | .leftBracket => token.chars = ['[']
  | .rightBracket => token.chars = [']']
  | .comma => token.chars = [',']
  | .colon => token.chars = [':']
  | .pathSeparator => token.chars = ['\\'] ∨ token.chars = [':', ':']
  | .underscore => token.chars = ['_']
  | .identifier => IsIdentifier token.chars
  | .integer => IsInteger token.chars
  | .float => IsFloat token.chars
  | .quotation => ∃ mark body, (mark = '"' ∨ mark = '\'') ∧ QuotedBody mark body ∧
      token.chars = mark :: (body ++ [mark])
  | .unterminated => ∃ mark rest, (mark = '"' ∨ mark = '\'') ∧ token.chars = mark :: rest ∧
      ∀ body after, rest = body ++ mark :: after → ¬ QuotedBody mark body
  | .whitespace => token.chars ≠ [] ∧ ∀ char ∈ token.chars, IsBlank char
  | .unknown => ∃ char, token.chars = [char] ∧ IsStray char
  -- The end is no token of the text.
  | .finish => False

/-- A token of its class has characters. -/
theorem InClass.chars_ne_nil {token : Token} (own : token.InClass) : token.chars ≠ [] := by
  -- Every class names its characters or asks for at least one.
  intro empty
  obtain ⟨tag, chars⟩ := token
  subst empty
  cases tag <;> simp_all [InClass, IsIdentifier, IsInteger, IsFloat, AreDigits]

/-- A token with characters of its kind is not the end. -/
theorem InClass.tag_ne_finish {token : Token} (own : token.InClass) : token.tag ≠ .finish := by
  intro tag
  simp [InClass, tag] at own

/-- A token that the text behind it does not continue. -/
def StopsBefore (token : Token) (behind : List Char) : Prop :=
  match token.tag with
  | .colon => begins (· == ':') behind = false
  | .underscore | .identifier => begins isIdentifierRest behind = false
  -- A point belongs to a number only when a digit stands behind it.
  | .integer => begins Char.isDigit behind = false ∧
      ∀ digit rest, behind = '.' :: digit :: rest → digit.isDigit = false
  | .float => begins Char.isDigit behind = false
  | .unterminated => behind = []
  | .whitespace => begins isBlank behind = false
  | .unknown => token.chars = ['-'] → begins Char.isDigit behind = false
  | _ => True

/-- What stops a token still stops it when the text is cut off. -/
theorem StopsBefore.of_append {token : Token} {front back : List Char}
    (stops : token.StopsBefore (front ++ back)) : token.StopsBefore front := by
  -- Every condition looks at no more than the first two characters behind the token.
  have shorter {test : Char → Bool} (not : begins test (front ++ back) = false) :
      begins test front = false := by
    cases front with
    | nil => rfl
    | cons => exact not
  unfold StopsBefore at stops ⊢
  split at stops
  case h_4 =>
    refine ⟨shorter stops.1, ?_⟩
    intro digit rest same
    exact stops.2 digit (rest ++ back) (by simp [same])
  case h_6 => exact (List.append_eq_nil_iff.mp stops).1
  all_goals grind

/-- A text splits behind the characters that pass a test when the next one does not. -/
theorem takeWhile_of_begins {keep : Char → Bool} {front behind : List Char}
    (all : ∀ char ∈ front, keep char = true) (stops : begins keep behind = false) :
    (front ++ behind).takeWhile keep = front ∧ (front ++ behind).dropWhile keep = behind := by
  -- The first character behind is refused, so the run ends exactly there.
  rw [List.takeWhile_append_of_pos all, List.dropWhile_append_of_pos all]
  cases behind with
  | nil => simp
  | cons first rest =>
    have : keep first = false := stops
    simp [this]

/-- A run takes all of the characters that it may take. -/
theorem run_eq {tag : TokenTag} {taken front behind : List Char} {keep : Char → Bool}
    (all : ∀ char ∈ front, keep char = true) (stops : begins keep behind = false) :
    run tag taken keep (front ++ behind) = (⟨tag, taken ++ front⟩, behind) := by
  -- What the run takes and what it leaves are the two parts that the split names.
  obtain ⟨kept, left⟩ := takeWhile_of_begins all stops
  rw [run, kept, left]

/-- What a run leaves does not begin with a character that it would take. -/
theorem begins_dropWhile (keep : Char → Bool) (text : List Char) :
    begins keep (text.dropWhile keep) = false := by
  -- Characters are dropped up to the first that fails the test.
  induction text with
  | nil => rfl
  | cons first rest ih =>
    cases kept : keep first with
    | true => simp [kept, ih]
    | false => simp [kept, begins]

/-- Only six characters are tokens on their own account. -/
theorem punctuation?_eq_none {test : Char → Bool} {char : Char} (passes : test char = true)
    (others : ['(', ')', '[', ']', ',', '\\'].any test = false) : punctuation? char = none := by
  -- A test that all six fail cannot have let one of them pass.
  unfold punctuation?
  split <;> first | rfl | simp_all

/-- A character that a test lets pass differs from those it does not. -/
theorem ne_of_passes {test : Char → Bool} {char : Char} (other : Char)
    (passes : test char = true) (refused : test other = false) : char ≠ other := by
  -- If they were the same, the test would give two answers.
  intro same
  rw [same, refused] at passes
  cases passes

/-- No digit can begin an identifier. -/
theorem isIdentifierStart_of_isDigit {char : Char} (digit : char.isDigit = true) :
    isIdentifierStart char = false := by
  -- Digits and letters lie in ranges that do not meet, and the underscore is in neither.
  have notUnderscore : char ≠ '_' := ne_of_passes '_' digit (by decide)
  simp only [isIdentifierStart, Char.isDigit, Char.isAlpha, Char.isUpper, Char.isLower] at *
  grind

/-- Identifiers and the underscore are told apart by what stands behind the first character. -/
theorem scan_identifierStart {first : Char} (rest : List Char)
    (start : isIdentifierStart first = true) :
    scan first rest =
      if first = '_' ∧ begins isIdentifierRest rest = false then (⟨.underscore, ['_']⟩, rest)
      else run .identifier [first] isIdentifierRest rest := by
  -- All branches before that of identifiers ask for a character that begins none.
  have notDigit : first.isDigit = false := by
    cases digit : first.isDigit with
    | false => rfl
    | true => simp [isIdentifierStart_of_isDigit digit] at start
  simp [scan, punctuation?_eq_none start (by decide), start, notDigit,
    ne_of_passes ':' start (by decide), ne_of_passes '"' start (by decide),
    ne_of_passes '\'' start (by decide), ne_of_passes '-' start (by decide)]

/-- A digit begins a number, and so does a minus sign before a digit. -/
theorem scan_number {first : Char} {rest : List Char}
    (number : first.isDigit = true ∨ first = '-' ∧ begins Char.isDigit rest = true) :
    scan first rest = scanNumber [first] rest := by
  -- No branch before that of numbers takes a digit, or a minus sign.
  rcases number with digit | ⟨rfl, digit⟩
  · simp [scan, punctuation?_eq_none digit (by decide), digit,
      ne_of_passes ':' digit (by decide), ne_of_passes '"' digit (by decide),
      ne_of_passes '\'' digit (by decide)]
  · simp [scan, punctuation?, digit]

/-- A blank begins a run of blanks. -/
theorem scan_blank {first : Char} (rest : List Char) (blank : isBlank first = true) :
    scan first rest = run .whitespace [first] isBlank rest := by
  -- There are five blanks, and each of them fails all tests before that of blanks.
  simp only [isBlank, Bool.or_eq_true, beq_iff_eq] at blank
  rcases blank with (((rfl | rfl) | rfl) | rfl) | rfl <;> rfl

/-- A quote begins a quotation. -/
theorem scan_quote {first : Char} (rest : List Char) (quote : first = '"' ∨ first = '\'') :
    scan first rest = scanQuotation first rest := by
  -- Neither quote is punctuation or a colon, so the test for quotes is the first to hold.
  rcases quote with rfl | rfl <;> rfl

/-- Six of the characters with which other tokens begin are tokens on their own account. -/
theorem punctuation?_of_isStray {char : Char} (stray : IsStray char) :
    punctuation? char = none := by
  unfold punctuation?
  split <;> first | rfl | exact absurd (by decide) stray.1

/-- Without a digit behind a minus sign, a character that begins no other token is unknown. -/
theorem scan_unknown {first : Char} {rest : List Char} (stray : IsStray first)
    (alone : first = '-' → begins Char.isDigit rest = false) :
    scan first rest = (⟨.unknown, [first]⟩, rest) := by
  -- What begins no other token fails every test, which leaves the last branch.
  have differs : first ≠ ':' ∧ first ≠ '"' ∧ first ≠ '\'' := by
    refine ⟨?_, ?_, ?_⟩ <;> rintro rfl <;> exact absurd (by decide) stray.1
  have digit : ¬ first.isDigit = true := fun digit => stray.2.1 (isNameRest_of_isDigit digit)
  have start : ¬ isIdentifierStart first = true := fun start =>
    stray.2.1 (isIdentifierStart_iff.mp start).rest
  have underscore : first ≠ '_' := fun same => stray.2.1 (.inr (.inr same))
  have blank : ¬ isBlank first = true := fun blank => stray.2.2 (isBlank_iff.mp blank)
  have minus : ¬ (first = '-' ∧ begins Char.isDigit rest = true) := by
    intro sign
    rw [alone sign.1] at sign
    cases sign.2
  simp [scan, punctuation?_of_isStray stray, differs, digit, start, blank, underscore, minus]

/-- An integer goes on as a float when a point and a digit follow, and ends otherwise. -/
theorem scanFraction_class {whole text : List Char} (integer : IsInteger whole)
    (stops : begins Char.isDigit text = false) :
    (scanFraction whole text).1.InClass ∧
      (scanFraction whole text).1.StopsBefore (scanFraction whole text).2 := by
  -- Whether a point with a digit follows decides between the two kinds of number.
  fun_cases scanFraction whole text with
  | case1 digit rest isDigit =>
    refine ⟨⟨whole, digit :: rest.takeWhile Char.isDigit, integer, ⟨by simp, ?_⟩,
      by simp [run]⟩, ?_⟩
    · intro char member
      rcases List.mem_cons.mp member with rfl | later
      · exact isDigit
      · exact List.all_eq_true.mp List.all_takeWhile char later
    · exact begins_dropWhile _ _
  | case2 digit rest notDigit =>
    refine ⟨integer, rfl, ?_⟩
    intro other behind same
    cases same
    simpa using notDigit
  | case3 text notPoint =>
    exact ⟨integer, stops, fun digit rest same => (notPoint digit rest same).elim⟩

/-- A number is an integer or a float, and nothing behind it continues it. -/
theorem scanNumber_class {first : Char} {rest : List Char}
    (number : first.isDigit = true ∨ first = '-' ∧ begins Char.isDigit rest = true) :
    (scanNumber [first] rest).1.InClass ∧
      (scanNumber [first] rest).1.StopsBefore (scanNumber [first] rest).2 := by
  -- The whole part has a digit, since either the first character or the next one is a digit.
  have digits : ∀ char ∈ rest.takeWhile Char.isDigit, char.isDigit = true :=
    List.all_eq_true.mp List.all_takeWhile
  refine scanFraction_class ?_ (begins_dropWhile _ _)
  rcases number with digit | ⟨rfl, digit⟩
  · exact ⟨first :: rest.takeWhile Char.isDigit, ⟨by simp, by simpa [digit] using digits⟩, .inl rfl⟩
  · -- The digit behind the minus sign is the first of the digits.
    refine ⟨rest.takeWhile Char.isDigit, ⟨?_, digits⟩, .inr rfl⟩
    cases rest with
    | nil => simp [begins] at digit
    | cons second behind =>
      have : second.isDigit = true := digit
      simp [this]

/-- A quotation is closed by its own quote, or runs to the end. -/
theorem scanQuotation_class {mark : Char} (quote : mark = '"' ∨ mark = '\'') (text : List Char) :
    (scanQuotation mark text).1.InClass ∧
      (scanQuotation mark text).1.StopsBefore (scanQuotation mark text).2 := by
  -- The search for the closing quote tells which of the two tokens it is.
  have single := ne_backslash_of_quote quote
  unfold scanQuotation
  cases closed : closeQuotation? mark text with
  | none => exact ⟨⟨mark, text, quote, rfl, (closeQuotation?_eq_none_iff single).mp closed⟩, rfl⟩
  | some parts =>
    obtain ⟨body, after⟩ := parts
    exact ⟨⟨mark, body, quote, ((closeQuotation?_eq_some_iff single).mp closed).2, rfl⟩, trivial⟩

/-- Two colons are one token. -/
theorem scan_colon (rest : List Char) :
    scan ':' rest =
      if begins (· == ':') rest then (⟨.pathSeparator, [':', ':']⟩, rest.tail)
      else (⟨.colon, [':']⟩, rest) := rfl

/-- A punctuation character is a token by itself. -/
theorem scan_punctuation {first : Char} {tag : TokenTag} (rest : List Char)
    (punctuation : punctuation? first = some tag) :
    scan first rest = (⟨tag, [first]⟩, rest) := by
  -- Punctuation is looked for before anything else.
  simp [scan, punctuation]

/-- Punctuation is of its class, and nothing ever continues it. -/
theorem punctuation_class {first : Char} {tag : TokenTag}
    (punctuation : punctuation? first = some tag) (behind : List Char) :
    InClass ⟨tag, [first]⟩ ∧ StopsBefore ⟨tag, [first]⟩ behind := by
  -- There are six cases, of which a backslash alone has another spelling.
  unfold punctuation? at punctuation
  split at punctuation <;> cases punctuation
  case h_6 => exact ⟨.inl rfl, trivial⟩
  all_goals exact ⟨rfl, trivial⟩

/-- A character that none of the tests lets pass begins no token of another kind. -/
theorem isStray_of_tests {char : Char} (punctuation : punctuation? char = none)
    (colon : char ≠ ':') (quote : ¬ (char = '"' ∨ char = '\'')) (digit : ¬ char.isDigit = true)
    (start : ¬ isIdentifierStart char = true) (blank : ¬ isBlank char = true) : IsStray char := by
  refine ⟨?_, ?_, fun own => blank (isBlank_iff.mpr own)⟩
  · intro among
    simp only [List.mem_cons, List.not_mem_nil, or_false] at among
    rcases among with rfl | rfl | rfl | rfl | rfl | rfl | rfl | rfl | rfl <;>
      simp_all [punctuation?]
  · rintro (letter | inside | underscore)
    · exact start (isIdentifierStart_iff.mpr (.inl letter))
    · exact digit (by simpa [Char.isDigit, Char.le_def] using inside)
    · exact start (isIdentifierStart_iff.mpr (.inr underscore))

/-- A run from where an identifier begins is one, unless it is an underscore alone. -/
theorem identifier_class {first : Char} {rest : List Char}
    (start : isIdentifierStart first = true)
    (named : ¬ (first = '_' ∧ begins isIdentifierRest rest = false)) :
    (run .identifier [first] isIdentifierRest rest).1.InClass ∧
      (run .identifier [first] isIdentifierRest rest).1.StopsBefore
        (run .identifier [first] isIdentifierRest rest).2 := by
  have all : ∀ char ∈ rest.takeWhile isIdentifierRest, IsNameRest char := fun char later =>
    isIdentifierRest_iff.mp (List.all_eq_true.mp List.all_takeWhile char later)
  refine ⟨⟨first, rest.takeWhile isIdentifierRest, rfl, isIdentifierStart_iff.mp start, all, ?_⟩,
    begins_dropWhile _ _⟩
  -- An identifier that is an underscore alone would have been read as that.
  intro alone
  obtain ⟨rfl, none⟩ : first = '_' ∧ rest.takeWhile isIdentifierRest = [] := by
    simpa [run] using alone
  refine named ⟨rfl, ?_⟩
  cases rest with
  | nil => rfl
  | cons second behind =>
    cases kept : isIdentifierRest second with
    | false => exact kept
    | true => simp [kept] at none

/-- A run of blanks goes on up to what is none. -/
theorem blank_class {first : Char} (rest : List Char) (blank : isBlank first = true) :
    (run .whitespace [first] isBlank rest).1.InClass ∧
      (run .whitespace [first] isBlank rest).1.StopsBefore
        (run .whitespace [first] isBlank rest).2 := by
  -- The first one is a blank, and those that the run takes have passed the test.
  refine ⟨⟨by simp [run], ?_⟩, begins_dropWhile _ _⟩
  intro char member
  rcases List.mem_cons.mp member with rfl | later
  · exact isBlank_iff.mp blank
  · exact isBlank_iff.mp (List.all_eq_true.mp List.all_takeWhile char later)

/-- Every token that is read is of its class, and nothing behind it continues it. -/
theorem scan_class (first : Char) (rest : List Char) :
    (scan first rest).1.InClass ∧ (scan first rest).1.StopsBefore (scan first rest).2 := by
  -- The first character tells the kind of the token, up to a few with one more to look at.
  by_cases identifier : isIdentifierStart first = true
  · rw [scan_identifierStart rest identifier]
    split
    · rename_i underscore
      exact ⟨rfl, underscore.2⟩
    · rename_i named
      exact identifier_class identifier named
  by_cases number : first.isDigit = true ∨ first = '-' ∧ begins Char.isDigit rest = true
  · rw [scan_number number]
    exact scanNumber_class number
  by_cases blank : isBlank first = true
  · rw [scan_blank rest blank]
    exact blank_class rest blank
  by_cases quote : first = '"' ∨ first = '\''
  · rw [scan_quote rest quote]
    exact scanQuotation_class quote rest
  by_cases colon : first = ':'
  · subst colon
    rw [scan_colon]
    split
    · exact ⟨.inr rfl, trivial⟩
    · rename_i single
      exact ⟨rfl, Bool.eq_false_iff.mpr single⟩
  cases punctuation : punctuation? first with
  | some tag =>
    rw [scan_punctuation rest punctuation]
    exact punctuation_class punctuation rest
  | none =>
    have alone : first = '-' → begins Char.isDigit rest = false := by simp_all
    have stray : IsStray first :=
      isStray_of_tests punctuation colon quote (by tauto) identifier blank
    rw [scan_unknown stray alone]
    exact ⟨⟨first, rfl, stray⟩, fun same => alone (by simpa using same)⟩

/-- A number is read up to the end of its whole digits first. -/
theorem scan_integer {whole rest : List Char} {first : Char} {behind : List Char}
    (integer : IsInteger whole) (text : whole ++ behind = first :: rest)
    (stops : begins Char.isDigit behind = false) :
    scan first rest = scanFraction whole behind := by
  -- Reading goes on until the first character that is no digit, which is where the fraction begins.
  obtain ⟨digits, ⟨some, all⟩, signed⟩ := integer
  obtain ⟨digit, others, rfl⟩ := List.exists_cons_of_ne_nil some
  have isDigit := all digit (List.mem_cons_self ..)
  rcases signed with rfl | rfl
  · rw [List.cons_append] at text
    obtain ⟨rfl, rfl⟩ := List.cons.inj text
    obtain ⟨taken, left⟩ := takeWhile_of_begins (fun char later => all char (.tail _ later)) stops
    rw [scan_number (.inl isDigit), scanNumber, taken, left]
    rfl
  · rw [List.cons_append] at text
    obtain ⟨rfl, rfl⟩ := List.cons.inj text
    obtain ⟨taken, left⟩ := takeWhile_of_begins all stops
    have number : begins Char.isDigit (digit :: others ++ behind) = true := isDigit
    rw [scan_number (.inr ⟨rfl, number⟩), scanNumber, taken, left]
    rfl

/-- A float is read to the end of the digits behind its point. -/
theorem scan_float {chars rest behind : List Char} {first : Char} (float : IsFloat chars)
    (text : chars ++ behind = first :: rest) (stops : begins Char.isDigit behind = false) :
    scan first rest = (⟨.float, chars⟩, behind) := by
  -- The whole digits end at the point, and the digit behind that makes a fraction.
  obtain ⟨whole, fraction, integer, ⟨some, all⟩, rfl⟩ := float
  obtain ⟨digit, others, rfl⟩ := List.exists_cons_of_ne_nil some
  have isDigit := all digit (List.mem_cons_self ..)
  rw [List.append_assoc] at text
  rw [scan_integer integer text (by simp [begins])]
  simp only [List.cons_append, scanFraction, isDigit, if_true]
  rw [run_eq (fun char later => all char (.tail _ later)) stops]
  simp

/-- An identifier is read up to where no name goes on. -/
theorem scan_identifier {chars rest behind : List Char} {first : Char}
    (identifier : IsIdentifier chars) (text : chars ++ behind = first :: rest)
    (stops : begins isIdentifierRest behind = false) :
    scan first rest = (⟨.identifier, chars⟩, behind) := by
  obtain ⟨start, others, rfl, own, all, notAlone⟩ := identifier
  rw [List.cons_append] at text
  obtain ⟨rfl, rfl⟩ := List.cons.inj text
  have start := isIdentifierStart_iff.mpr own
  have rest := fun char later => isIdentifierRest_iff.mpr (all char later)
  rw [scan_identifierStart _ start, if_neg, run_eq rest stops]
  · rfl
  · -- Behind a first underscore there is a character that belongs to the identifier.
    intro lone
    obtain ⟨rfl, none⟩ := lone
    cases others with
    | nil => exact notAlone rfl
    | cons second later =>
      have : isIdentifierRest second = true := rest second (List.mem_cons_self ..)
      simp [begins, this] at none

/-- A token of its class that nothing behind it continues is the token that is read. -/
theorem scan_of_class {token : Token} {first : Char} {rest behind : List Char}
    (text : token.chars ++ behind = first :: rest) (own : token.InClass)
    (stops : token.StopsBefore behind) : scan first rest = (token, behind) := by
  -- The class gives the first character and with it the branch of the scanner.
  obtain ⟨tag, chars⟩ := token
  cases tag <;> simp only [InClass, StopsBefore] at own stops text
  case underscore =>
    subst own
    obtain ⟨rfl, rfl⟩ := List.cons.inj text
    rw [scan_identifierStart _ (by decide)]
    exact if_pos ⟨rfl, stops⟩
  case identifier => exact scan_identifier own text stops
  case integer =>
    rw [scan_integer own text stops.1]
    fun_cases scanFraction chars behind with
    | case1 digit others isDigit => simp [stops.2 digit others rfl] at isDigit
    | case2 => rfl
    | case3 => rfl
  case float => exact scan_float own text stops
  case quotation =>
    obtain ⟨mark, body, quote, inside, rfl⟩ := own
    have single := ne_backslash_of_quote quote
    rw [List.cons_append, List.append_assoc] at text
    obtain ⟨rfl, rfl⟩ := List.cons.inj text
    have closed : closeQuotation? mark (body ++ ([mark] ++ behind)) = some (body, behind) :=
      (closeQuotation?_eq_some_iff single).mpr ⟨rfl, inside⟩
    rw [scan_quote _ quote, scanQuotation, closed]
  case unterminated =>
    obtain ⟨mark, others, quote, rfl, still⟩ := own
    have closed := (closeQuotation?_eq_none_iff (ne_backslash_of_quote quote)).mpr still
    subst stops
    rw [List.append_nil] at text
    obtain ⟨rfl, rfl⟩ := List.cons.inj text
    rw [scan_quote _ quote, scanQuotation, closed]
  case whitespace =>
    obtain ⟨some, all⟩ := own
    obtain ⟨blank, others, rfl⟩ := List.exists_cons_of_ne_nil some
    rw [List.cons_append] at text
    obtain ⟨rfl, rfl⟩ := List.cons.inj text
    have blanks := fun char member => isBlank_iff.mpr (all char member)
    rw [scan_blank _ (blanks blank (List.mem_cons_self ..)),
      run_eq (fun char later => blanks char (.tail _ later)) stops]
    rfl
  case unknown =>
    obtain ⟨char, rfl, stray⟩ := own
    obtain ⟨rfl, rfl⟩ := List.cons.inj text
    exact scan_unknown stray fun minus => stops (by rw [minus])
  case pathSeparator =>
    rcases own with rfl | rfl
    all_goals
      obtain ⟨rfl, rfl⟩ := List.cons.inj text
      rfl
  case colon =>
    subst own
    obtain ⟨rfl, rfl⟩ := List.cons.inj text
    rw [scan_colon]
    exact if_neg (by simp [stops])
  -- What is left are the punctuation characters.
  all_goals
    subst own
    obtain ⟨rfl, rfl⟩ := List.cons.inj text
    rfl

/-- The token that is read is the one of its class that nothing behind it continues. -/
theorem scan_eq_iff {token : Token} {first : Char} {rest behind : List Char} :
    scan first rest = (token, behind) ↔
      token.chars ++ behind = first :: rest ∧ token.InClass ∧ token.StopsBefore behind := by
  -- One direction is what every token read satisfies, the other that this determines it.
  constructor
  · intro read
    have whole := scan_append first rest
    have own := scan_class first rest
    rw [read] at whole own
    exact ⟨whole, own⟩
  · intro given
    obtain ⟨text, own, stops⟩ := given
    exact scan_of_class text own stops

/-- Tokens of their classes, none of which the text behind it continues. -/
def Settled (behind : List Char) : List Token → Prop
  | [] => True
  | token :: rest =>
    token.InClass ∧ token.StopsBefore (joined rest ++ behind) ∧ Settled behind rest

/-- Tokens in two parts are settled when the first are so before the text of the second. -/
theorem settled_append {behind : List Char} {front back : List Token} :
    Settled behind (front ++ back) ↔
      Settled (joined back ++ behind) front ∧ Settled behind back := by
  -- Tokens of the first part see those of the second only as text behind them.
  induction front with
  | nil => simp [Settled]
  | cons token rest ih => simp [Settled, ih, and_assoc]

/-- Tokens that are settled before some text are settled before the front of it. -/
theorem Settled.of_append {tokens : List Token} {front back : List Char}
    (settled : Settled (front ++ back) tokens) : Settled front tokens := by
  -- Whether a token ends is not changed by cutting off text far behind it.
  induction tokens with
  | nil => trivial
  | cons token rest ih =>
    obtain ⟨own, stops, others⟩ := settled
    rw [← List.append_assoc] at stops
    exact ⟨own, stops.of_append, ih others⟩

/-- Settled tokens are of their classes. -/
theorem Settled.inClass {behind : List Char} {tokens : List Token}
    (settled : Settled behind tokens) : ∀ token ∈ tokens, token.InClass := by
  -- Being settled asks this of every token in turn.
  induction tokens with
  | nil => simp
  | cons token rest ih =>
    obtain ⟨own, _, others⟩ := settled
    simpa [own] using ih others

/-- A text falls into exactly one list of settled tokens, which are those that are read. -/
theorem ofChars_eq_iff {text : List Char} {tokens : List Token} :
    ofChars text = tokens ↔ joined tokens = text ∧ Settled [] tokens := by
  -- Reading gives settled tokens, and settled tokens are read one after another.
  constructor
  · intro read
    subst read
    fun_induction ofChars text with
    | case1 => exact ⟨rfl, trivial⟩
    | case2 first rest ih =>
      generalize read : scan first rest = result at ih ⊢
      obtain ⟨token, behind⟩ := result
      obtain ⟨whole, own, stops⟩ := scan_eq_iff.mp read
      refine ⟨?_, own, ?_, ih.2⟩
      · rw [joined_cons, ih.1, whole]
      · rwa [ih.1, List.append_nil]
  · intro given
    obtain ⟨rfl, settled⟩ := given
    induction tokens with
    | nil => rw [joined_nil, ofChars]
    | cons token rest ih =>
      obtain ⟨own, stops, others⟩ := settled
      rw [List.append_nil] at stops
      -- A token has a first character, at which its reading starts.
      obtain ⟨first, chars, start⟩ := List.exists_cons_of_ne_nil own.chars_ne_nil
      have text : token.chars ++ joined rest = first :: (chars ++ joined rest) := by
        rw [start, List.cons_append]
      rw [joined_cons, text, ofChars, scan_eq_iff.mpr ⟨text, own, stops⟩]
      exact congrArg _ (ih others)

/-- The tokens of a text have the characters of the text. -/
theorem joined_ofChars (text : List Char) : joined (ofChars text) = text :=
  (ofChars_eq_iff.mp rfl).1

/-- The tokens of a text are settled. -/
theorem settled_ofChars (text : List Char) : Settled [] (ofChars text) :=
  (ofChars_eq_iff.mp rfl).2

/-- Nothing continues a token where the text ends. -/
theorem stopsBefore_nil (token : Token) : token.StopsBefore [] := by
  obtain ⟨tag, chars⟩ := token
  cases tag <;> simp [StopsBefore, begins]

/-- A text is a single token when it is of a class as a whole. -/
theorem ofChars_eq_singleton_iff {text : List Char} {token : Token} :
    ofChars text = [token] ↔ token.chars = text ∧ token.InClass := by
  rw [ofChars_eq_iff]
  simp [Settled, stopsBefore_nil]

/-- Then that token and the end are all there is. -/
theorem tokenize_eq_singleton_iff {source : String} {token : Token} :
    tokenize source = [token, finish] ↔ token.chars = source.toList ∧ token.InClass := by
  rw [← ofChars_eq_singleton_iff]
  show ofChars source.toList ++ [finish] = [token] ++ [finish] ↔ _
  exact List.append_left_inj _

/-- A token that nothing continues is read first, and then the text behind it. -/
theorem ofChars_append {token : Token} {behind : List Char} (own : token.InClass)
    (stops : token.StopsBefore behind) :
    ofChars (token.chars ++ behind) = token :: ofChars behind := by
  refine ofChars_eq_iff.mpr ⟨?_, own, ?_, settled_ofChars behind⟩
  · rw [joined_cons, joined_ofChars]
  · rwa [joined_ofChars, List.append_nil]

end Token

end Motif
