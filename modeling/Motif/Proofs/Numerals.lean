import Motif.Proofs.Number.Reading
import Motif.Proofs.Pattern.Rejection
import Motif.Proofs.Tiling

/-!
A text is a numeral exactly when it is one number token.

So every number among the tokens of a text can be read as one, and no text is rejected for it.
-/

namespace Motif

open Token (tokenize ofChars)

/-- Whether a text has digits and nothing else. -/
def areDigits (text : List Char) : Bool :=
  !text.isEmpty && text.all Char.isDigit

/-- Whether there are digits up to the first point, and behind it if there is one. -/
def splitsIntoDigits (text : List Char) : Bool :=
  let whole := text.takeWhile (· != '.')
  match text.dropWhile (· != '.') with
  | [] => areDigits whole
  -- A second point would stand among the digits of the fraction, and is none of them.
  | _ :: fraction => areDigits whole && areDigits fraction

/-- The test for numerals that takes off a minus sign and splits the rest at its first point. -/
def isNumeralByParts : List Char → Bool
  | '-' :: rest => splitsIntoDigits rest
  | text => splitsIntoDigits text

variable {text : List Char}

/-- The test for digits lets digits pass. -/
theorem areDigits_iff : areDigits text = true ↔ AreDigits text := by
  -- Both ask for some characters, all of which are digits.
  simp [areDigits, AreDigits]

/-- Digits end where a point begins. -/
theorem AreDigits.split_at_point {digits : List Char} (own : AreDigits digits)
    (behind : List Char) (stops : begins (· != '.') behind = false) :
    (digits ++ behind).takeWhile (· != '.') = digits ∧
      (digits ++ behind).dropWhile (· != '.') = behind := by
  -- No digit is a point, so the cut goes on to where the digits end.
  refine Token.takeWhile_of_begins ?_ stops
  intro char member
  rw [bne_iff_ne]
  rintro rfl
  exact own.point_notMem member

/-- What splits at its first point are digits, or digits around a point. -/
theorem splitsIntoDigits_iff :
    splitsIntoDigits text = true ↔ AreDigits text ∨
      ∃ whole fraction, AreDigits whole ∧ AreDigits fraction ∧ text = whole ++ '.' :: fraction := by
  constructor
  · intro digits
    have parts : text.takeWhile (· != '.') ++ text.dropWhile (· != '.') = text :=
      List.takeWhile_append_dropWhile
    have stops := Token.begins_dropWhile (· != '.') text
    unfold splitsIntoDigits at digits
    cases rest : text.dropWhile (· != '.') with
    | nil =>
      rw [rest, List.append_nil] at parts
      simp only [rest, parts] at digits
      exact .inl (areDigits_iff.mp digits)
    | cons point fraction =>
      -- What was split off ends where the point is.
      rw [rest] at stops parts
      obtain rfl : point = '.' := by simpa [begins] using stops
      simp only [rest, Bool.and_eq_true, areDigits_iff] at digits
      exact .inr ⟨_, fraction, digits.1, digits.2, parts.symm⟩
  · rintro (own | ⟨whole, fraction, own, inner, rfl⟩)
    · have split := own.split_at_point [] rfl
      rw [List.append_nil] at split
      simpa [splitsIntoDigits, split] using areDigits_iff.mpr own
    · have split := own.split_at_point ('.' :: fraction) rfl
      simp [splitsIntoDigits, split, areDigits_iff.mpr own, areDigits_iff.mpr inner]

/-- What passes the test by parts is an integer or a float. -/
theorem isNumeralByParts_iff : isNumeralByParts text = true ↔ IsInteger text ∨ IsFloat text := by
  constructor
  · intro parts
    unfold isNumeralByParts at parts
    split at parts
    · rename_i rest
      rcases splitsIntoDigits_iff.mp parts with own | ⟨whole, fraction, own, inner, rfl⟩
      · exact .inl ⟨rest, own, .inr rfl⟩
      · exact .inr ⟨'-' :: whole, fraction, ⟨whole, own, .inr rfl⟩, inner, rfl⟩
    · rcases splitsIntoDigits_iff.mp parts with own | ⟨whole, fraction, own, inner, rfl⟩
      · exact .inl ⟨text, own, .inl rfl⟩
      · exact .inr ⟨whole, fraction, ⟨whole, own, .inl rfl⟩, inner, rfl⟩
  · -- Digits stand in front when there is no sign, so none is taken off.
    have unsigned {digits : List Char} (behind : List Char) (own : AreDigits digits) :
        isNumeralByParts (digits ++ behind) = splitsIntoDigits (digits ++ behind) := by
      obtain ⟨first, rest, rfl, -, unsigned⟩ := own.exists_cons
      unfold isNumeralByParts
      split
      · rename_i same
        exact absurd (List.cons.inj same).1 unsigned
      · rfl
    rintro (⟨digits, own, rfl | rfl⟩ | ⟨whole, fraction, ⟨digits, own, rfl | rfl⟩, inner, rfl⟩)
    · have plain := unsigned [] own
      rw [List.append_nil] at plain
      exact plain.trans (splitsIntoDigits_iff.mpr (.inl own))
    · exact splitsIntoDigits_iff.mpr (.inl own)
    · exact (unsigned _ own).trans (splitsIntoDigits_iff.mpr (.inr ⟨_, _, own, inner, rfl⟩))
    · exact splitsIntoDigits_iff.mpr (.inr ⟨_, _, own, inner, rfl⟩)

/-- What can be read as a numeral is an integer or a float. -/
theorem isNumeral_iff {source : String} :
    isNumeral source = true ↔ IsInteger source.toList ∨ IsFloat source.toList :=
  Numeral.ofChars?_isSome_iff

/-- Both tests for numerals let the same texts pass. -/
theorem isNumeral_eq_byParts (source : String) :
    isNumeral source = isNumeralByParts source.toList := by
  -- Either test lets integers and floats pass.
  rw [Bool.eq_iff_iff, isNumeral_iff, isNumeralByParts_iff]

/-- A token of a number. -/
def Token.IsNumber (token : Token) : Prop :=
  token.tag = .integer ∨ token.tag = .float

namespace Token

variable {token : Token}

/-- The characters of a number token are a numeral. -/
theorem InClass.isNumeral (own : token.InClass) (number : token.IsNumber) :
    isNumeral token.text = true := by
  -- The kinds of integers and floats are those of numerals.
  rw [isNumeral_iff, text, String.toList_ofList]
  rcases number with tag | tag
  · simp only [InClass, tag] at own
    exact .inl own
  · simp only [InClass, tag] at own
    exact .inr own

/-- Number tokens are told apart by their point. -/
theorem InClass.tag_eq_float_iff (own : token.InClass) (number : token.IsNumber) :
    token.tag = .float ↔ '.' ∈ token.chars := by
  -- An integer has no point, and a float has one.
  rcases number with tag | tag
  · simp only [InClass, tag] at own
    exact iff_of_false (by simp [tag]) own.point_notMem
  · simp only [InClass, tag] at own
    exact iff_of_true tag own.point_mem

end Token

/-- A numeral is a single number token, and so is nothing else. -/
theorem isNumeral_iff_tokenize {source : String} :
    isNumeral source = true ↔ ∃ token, token.IsNumber ∧ tokenize source = [token, .finish] := by
  -- A text of the characters of one kind is one token of that kind.
  constructor
  · intro numeral
    rcases isNumeral_iff.mp numeral with integer | float
    · refine ⟨⟨.integer, source.toList⟩, .inl rfl, ?_⟩
      exact Token.tokenize_eq_singleton_iff.mpr ⟨rfl, integer⟩
    · refine ⟨⟨.float, source.toList⟩, .inr rfl, ?_⟩
      exact Token.tokenize_eq_singleton_iff.mpr ⟨rfl, float⟩
  · rintro ⟨token, number, tokens⟩
    obtain ⟨chars, own⟩ := Token.tokenize_eq_singleton_iff.mp tokens
    have numeral := own.isNumeral number
    rwa [Token.text, chars, String.ofList_toList] at numeral

namespace Lexeme

variable {source : String} {lexeme : Lexeme}

/-- The text of a number among lexemes is a numeral. -/
theorem isNumeral_of_mem (member : lexeme ∈ ofText source) (number : lexeme.token.IsNumber) :
    isNumeral lexeme.text = true := by
  -- Lexemes have the characters of their kind.
  simpa using (inClass_of_mem member).isNumeral number

end Lexeme

/-- A number is read from numerals and from nothing else. -/
theorem Number.isSome_parse?_iff {source : String} :
    (parse? source).isSome = true ↔ isNumeral source = true := by
  -- Every numeral stands for a number.
  rw [parse?, Option.isSome_map, isNumeral]

/-- A fault of a number that is none, or of a literal that is none at all. -/
def PatternFault.IsSpurious (fault : PatternFault) : Prop :=
  -- Numbers and literals are told by their tokens already, so neither should ever be a fault.
  (∃ text, fault = .invalidNumber text) ∨ ∃ found, fault = .unexpectedToken "a literal" found

namespace Lexeme

variable {source : String} {lexeme : Lexeme} {rejection : PatternRejection}

/-- No reader asks for a literal when it names what is missing. -/
theorem not_isSpurious_of_unexpected {expected : String} (missing : expected ∈ expectations) :
    ¬ (lexeme.unexpected expected).fault.IsSpurious := by
  -- What is missing is one of the names that readers have for it.
  have other : expected ≠ "a literal" := by
    rintro rfl
    exact absurd missing (by decide)
  unfold unexpected
  split <;> simp [PatternFault.IsSpurious, other]

/-- A name is refused for what it is or for being there already. -/
theorem not_isSpurious_of_freshBinder {taken : List String}
    (refused : lexeme.freshBinder taken = .error rejection) : ¬ rejection.fault.IsSpurious := by
  -- Both refusals speak of a binder.
  unfold freshBinder at refused
  split_ifs at refused <;> cases refused <;> simp [PatternFault.IsSpurious]

/-- A lexeme of a literal is read as one, unless it is a quotation that no quote closes. -/
theorem not_isSpurious_of_literal (member : lexeme ∈ ofText source)
    (tag : lexeme.tag.isLiteral = true ∨ lexeme.tag = .unterminated)
    (refused : lexeme.literal = .error rejection) : ¬ rejection.fault.IsSpurious := by
  have read (number : lexeme.token.IsNumber) :
      ∃ literal, Literal.numeral? lexeme.text = some literal := by
    obtain ⟨value, parsed⟩ := Option.isSome_iff_exists.mp
      (Number.isSome_parse?_iff.mpr (isNumeral_of_mem member number))
    exact ⟨_, congrArg (Option.map _) parsed⟩
  -- Numbers are read, quotations need not be, and the end of an open one is told as such.
  unfold literal at refused
  cases kind : lexeme.tag <;> simp only [kind] at refused tag
  case quotation => cases refused
  case integer =>
    obtain ⟨literal, own⟩ := read (.inl kind)
    rw [own] at refused
    cases refused
  case float =>
    obtain ⟨literal, own⟩ := read (.inr kind)
    rw [own] at refused
    cases refused
  case unterminated =>
    cases refused
    simp [PatternFault.IsSpurious]
  -- Lexemes of all other kinds are no literals.
  all_goals simp [TokenTag.isLiteral] at tag

end Lexeme

namespace Pattern

variable {options : PatternOptions} {source : String} {rejection : PatternRejection}

/-- A path is refused for naming no type. -/
theorem not_isSpurious_of_ofPath {first last : Lexeme}
    (refused : ofPath options source first last = .error rejection) :
    ¬ rejection.fault.IsSpurious := by
  -- A path that does name one gives a pattern.
  simp only [ofPath] at refused
  split at refused <;> cases refused
  simp [PatternFault.IsSpurious]

/-- No text is rejected for a number that is none, nor for a literal that is none. -/
theorem RejectsText.not_isSpurious (rejected : RejectsText options source rejection) :
    ¬ rejection.fault.IsSpurious := by
  -- Every way to reject a text is looked at, and none of them is one of the two.
  cases rejected with
  | blank | trailing => simp [PatternFault.IsSpurious]
  | path split final refused => exact not_isSpurious_of_ofPath refused
  | lexemes rejected =>
    cases rejected with
    | unexpected front behind split missing => exact Lexeme.not_isSpurious_of_unexpected missing
    | name front behind split tag refused => exact Lexeme.not_isSpurious_of_freshBinder refused
    | @literal front behind lexeme _ split tag refused =>
      have member : lexeme ∈ Lexeme.ofText source := by simp [split]
      exact Lexeme.not_isSpurious_of_literal member tag refused
    | unnamedHead | loneSegment | nestedList => simp [PatternFault.IsSpurious]

end Pattern

/--
Numerals and number tokens are the same texts, and a point tells floats from integers.

Both tests for numerals agree. Every number token of a text can be read as a number, so that no text
is rejected for a number that is none, nor for a token that was taken for a literal.
-/
theorem numerals_are_number_tokens {source : String}
    (short : byteLength source.toList ≤ Span.limit) :
    (isNumeral source = true ↔ ∃ token, token.IsNumber ∧
        token.byteLength = source.utf8ByteSize ∧ tokenize source = [token, .finish]) ∧
      (∀ token, token.IsNumber → tokenize source = [token, .finish] →
        (token.tag = .float ↔ '.' ∈ source.toList)) ∧
      isNumeral source = isNumeralByParts source.toList ∧
      (∀ lexeme ∈ Lexeme.ofText source, lexeme.token.IsNumber →
        isNumeral (lexeme.span.slice source) = true ∧
          (Number.parse? (lexeme.span.slice source)).isSome = true) ∧
      ∀ options error, Pattern.parseWith options source = .error error →
        (∀ text, error.fault ≠ .invalidNumber text) ∧
          ∀ found, error.fault ≠ .unexpectedToken "a literal" found := by
  refine ⟨?_, ?_, isNumeral_eq_byParts source, ?_, ?_⟩
  · rw [isNumeral_iff_tokenize]
    constructor
    · rintro ⟨token, number, tokens⟩
      refine ⟨token, number, ?_, tokens⟩
      rw [Token.byteLength, (Token.tokenize_eq_singleton_iff.mp tokens).1, Nat.min_eq_left short,
        byteLength_toList]
    · rintro ⟨token, number, -, tokens⟩
      exact ⟨token, number, tokens⟩
  · intro token number tokens
    obtain ⟨chars, own⟩ := Token.tokenize_eq_singleton_iff.mp tokens
    rw [own.tag_eq_float_iff number, chars]
  · intro lexeme member number
    have numeral := Lexeme.isNumeral_of_mem member number
    rw [Lexeme.slice_of_mem short member]
    exact ⟨numeral, Number.isSome_parse?_iff.mpr numeral⟩
  · intro options error failed
    -- What a text is rejected for is never one of the two faults, whatever they would name.
    have genuine := (Pattern.rejectsText_of_parseWith failed).2.not_isSpurious
    constructor
    · intro text same
      exact genuine (.inl ⟨text, same⟩)
    · intro found same
      exact genuine (.inr ⟨found, same⟩)

/-- A numeral with a sign and a fraction, alone and among points and signs that belong to none. -/
theorem numerals_are_number_tokens_of_fraction :
    let float : Token := ⟨.float, "-3.50".toList⟩
    let mixed := "[7., --3.50.1]"
    let lexeme : Lexeme := ⟨.float, "-3.50", ⟨6, 11⟩⟩
    byteLength "-3.50".toList ≤ Span.limit ∧ byteLength mixed.toList ≤ Span.limit ∧
      isNumeral "-3.50" = true ∧ float.IsNumber ∧ tokenize "-3.50" = [float, .finish] ∧
      (float.tag = .float ↔ '.' ∈ "-3.50".toList) ∧
      lexeme ∈ Lexeme.ofText mixed ∧ lexeme.token.IsNumber ∧
      isNumeral (lexeme.span.slice mixed) = true ∧
      ∃ error, Pattern.parseWith {} mixed = .error error ∧
        ∀ text, error.fault ≠ .invalidNumber text := by
  intro float mixed lexeme
  have short : byteLength "-3.50".toList ≤ Span.limit := by decide
  have shortMixed : byteLength mixed.toList ≤ Span.limit := by decide
  have tokens : tokenize "-3.50" = [float, .finish] := by cbv
  have member : lexeme ∈ Lexeme.ofText mixed := by
    have lexemes : (Lexeme.ofText mixed)[5]? = some lexeme := by cbv
    exact List.mem_of_getElem? lexemes
  have failed : Pattern.parseWith {} mixed =
      .error ⟨⟨.unexpectedToken "`,` or `]`" "`.`", ⟨2, 3⟩⟩, mixed⟩ := by cbv
  obtain ⟨single, point, -⟩ := numerals_are_number_tokens short
  obtain ⟨-, -, -, numbers, faults⟩ := numerals_are_number_tokens shortMixed
  have numeral : isNumeral "-3.50" = true := single.mpr ⟨float, .inr rfl, by decide, tokens⟩
  exact ⟨short, shortMixed, numeral, .inr rfl, tokens, point float (.inr rfl) tokens, member,
    .inr rfl, (numbers lexeme member (.inr rfl)).1, _, failed, (faults _ _ failed).1⟩

end Motif
