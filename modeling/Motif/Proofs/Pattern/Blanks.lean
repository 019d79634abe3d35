import Motif.Proofs.Pattern.LeadingPath

/-!
Blanks between tokens make no difference, except beside the separators of a type path.

Reading never looks at the places of lexemes, apart from handing them on. Only a type tag is named
by a piece of the text, which has all the blanks that stand in it.
-/

namespace Motif

open Token (joined solid)

/-- A rejection without its place. -/
def PatternRejection.unplaced (rejection : PatternRejection) : PatternRejection :=
  ⟨rejection.fault, .origin⟩

/-- The fault is kept. -/
@[simp] theorem PatternRejection.unplaced_mk (fault : PatternFault) (span : Span) :
    unplaced ⟨fault, span⟩ = ⟨fault, .origin⟩ := rfl

namespace Lexeme

/-- A lexeme without its place. -/
def unplaced (lexeme : Lexeme) : Lexeme :=
  ⟨lexeme.tag, lexeme.text, .origin⟩

/-- The kind of a lexeme is kept. -/
@[simp] theorem unplaced_tag (lexeme : Lexeme) : lexeme.unplaced.tag = lexeme.tag := rfl

/-- The text of a lexeme is kept. -/
@[simp] theorem unplaced_text (lexeme : Lexeme) : lexeme.unplaced.text = lexeme.text := rfl

/-- The place is that of no lexeme. -/
@[simp] theorem unplaced_span (lexeme : Lexeme) : lexeme.unplaced.span = .origin := rfl

/-- A lexeme is shown by its kind and its text. -/
@[simp] theorem unplaced_found (lexeme : Lexeme) : lexeme.unplaced.found = lexeme.found := rfl

/-- A lexeme is in the way by what it is. -/
@[simp] theorem unexpected_unplaced (lexeme : Lexeme) (expected : String) :
    lexeme.unplaced.unexpected expected = (lexeme.unexpected expected).unplaced := by
  -- An open quotation is reported in another way, but not by its place either.
  by_cases tag : lexeme.tag = .unterminated <;> simp [unexpected, tag]

/-- A name is refused by what it is and what is taken. -/
@[simp] theorem freshBinder_unplaced (taken : List String) (lexeme : Lexeme) :
    lexeme.unplaced.freshBinder taken =
      (lexeme.freshBinder taken).mapError PatternRejection.unplaced := by
  -- Neither of the two tests looks at a place.
  by_cases lower : begins Char.isLower lexeme.text.toList = true
  · by_cases known : lexeme.text ∈ taken <;> simp [freshBinder, lower, known, Except.mapError]
  · simp [freshBinder, lower, Except.mapError]

/-- A literal is read by kind and text. -/
@[simp] theorem literal_unplaced (lexeme : Lexeme) :
    lexeme.unplaced.literal = lexeme.literal.mapError PatternRejection.unplaced := by
  -- Numbers may be refused, which is known from their text.
  unfold literal
  simp only [unplaced_tag, unplaced_text]
  split
  case h_2 | h_3 => cases Literal.numeral? lexeme.text <;> rfl
  all_goals rfl

end Lexeme

/-- A reading without places, neither where it failed nor where it left off. -/
def Reading.unplaced {α : Type} : Reading α → Reading α
  | .ok (value, behind) => .ok (value, behind.map Lexeme.unplaced)
  | .error rejection => .error rejection.unplaced

/-- What was read is kept. -/
@[simp] theorem Reading.unplaced_ok {α : Type} (value : α) (behind : List Lexeme) :
    Reading.unplaced (.ok (value, behind)) = .ok (value, behind.map Lexeme.unplaced) := rfl

/-- The fault of what was not read is kept. -/
@[simp] theorem Reading.unplaced_error {α : Type} (rejection : PatternRejection) :
    Reading.unplaced (.error rejection : Reading α) = .error rejection.unplaced := rfl

/-- What a reading makes of a whole text, without any place. -/
def Reading.verdict {α : Type} : Reading α → Except PatternFault α
  | .error rejection => .error rejection.fault
  | .ok (value, []) => .ok value
  | .ok (_, _ :: _) => .error .trailingInput

/-- A verdict says nothing of places. -/
theorem Reading.verdict_unplaced {α : Type} (reading : Reading α) :
    verdict (unplaced reading) = verdict reading := by
  -- Whether something is left over is seen without its place.
  rcases reading with rejection | ⟨value, _ | ⟨extra, behind⟩⟩ <;> rfl

namespace ConsPattern

/-- A cons pattern is read from its tokens, wherever they stand. -/
theorem read_unplaced (finish : Lexeme) (taken heads : List String) (lexemes : List Lexeme) :
    read finish.unplaced taken heads (lexemes.map Lexeme.unplaced) =
      Reading.unplaced (read finish taken heads lexemes) := by
  -- Each step looks at kinds and texts of the lexemes in front.
  fun_induction read finish taken heads lexemes with
  | case1 => simp [read]
  | case2 heads segment rest other =>
    -- What stands behind a segment of the wrong kind is not looked at.
    rw [List.map_cons]
    unfold read
    simp [other]
  | case8 heads segment other mark behind colon closes none =>
    have segmental : ¬(segment.unplaced.tag ≠ .identifier ∧ segment.unplaced.tag ≠ .underscore) :=
      other
    rw [List.map_cons, List.map_cons, read, if_neg segmental]
    simp_all
  | _ => simp_all [read, Except.mapError]

end ConsPattern

namespace Slot

/-- A slot is read from its tokens, wherever they stand. -/
theorem read_unplaced (finish : Lexeme) (taken : List String) (lexemes : List Lexeme) :
    read finish.unplaced taken (lexemes.map Lexeme.unplaced) =
      Reading.unplaced (read finish taken lexemes) := by
  cases lexemes with
  | nil => simp [read]
  | cons first rest =>
    -- The kind of the first lexeme says which part of a slot is read.
    simp only [List.map_cons, read, Lexeme.unplaced_tag]
    cases first.tag
    case quotation | integer | float | unterminated =>
      rw [Lexeme.literal_unplaced]
      cases first.literal <;> rfl
    case identifier =>
      rw [Lexeme.freshBinder_unplaced]
      cases first.freshBinder taken <;> rfl
    case leftParen =>
      simp only [ConsPattern.read_unplaced]
      cases ConsPattern.read finish taken [] rest <;> rfl
    case underscore | leftBracket => rfl
    all_goals simp

/-- A slot that was read is read again without places. -/
theorem read_unplaced_of_ok {finish : Lexeme} {taken : List String}
    {lexemes behind : List Lexeme} {slot : Slot}
    (found : read finish taken lexemes = .ok (slot, behind)) :
    read finish.unplaced taken (lexemes.map Lexeme.unplaced) =
      .ok (slot, behind.map Lexeme.unplaced) := by
  -- What is left behind it has no places then.
  rw [read_unplaced, found, Reading.unplaced_ok]

/-- A slot with nothing behind it has no bracket that closes the list. -/
theorem readAll_of_last {finish : Lexeme} {taken : List String} {lexemes : List Lexeme}
    {slot : Slot} (only : read finish taken lexemes = .ok (slot, [])) :
    readAll finish taken lexemes = .error (finish.unexpected "`,` or `]`") := by
  -- A comma or a bracket has to follow, and neither does.
  rw [readAll]
  split <;> simp_all

/-- Slots are read from their tokens, wherever they stand. -/
theorem readAll_unplaced (finish : Lexeme) (taken : List String) (lexemes : List Lexeme) :
    readAll finish.unplaced taken (lexemes.map Lexeme.unplaced) =
      Reading.unplaced (readAll finish taken lexemes) := by
  -- The first slot is read from its tokens, and so is the mark behind it.
  fun_induction readAll finish taken lexemes with
  | case1 taken lexemes rejection refused =>
    have refused' := read_unplaced finish taken lexemes
    rw [refused] at refused'
    rw [readAll_of_error refused', Reading.unplaced_error]
  | case2 taken lexemes slot found =>
    rw [readAll_of_last (read_unplaced_of_ok found), Lexeme.unexpected_unplaced,
      Reading.unplaced_error]
  | case3 taken lexemes slot mark rest found comma ih =>
    rw [readAll_of_read (read_unplaced_of_ok found), Lexeme.unplaced_tag, if_pos comma, ih]
    cases readAll finish (taken ++ slot.binders) rest <;> rfl
  | case4 taken lexemes slot mark rest found comma closes =>
    rw [readAll_of_read (read_unplaced_of_ok found), Lexeme.unplaced_tag, if_neg comma,
      if_pos closes, Reading.unplaced_ok]
  | case5 taken lexemes slot mark rest found comma other =>
    rw [readAll_of_read (read_unplaced_of_ok found), Lexeme.unplaced_tag, if_neg comma,
      if_neg other, Lexeme.unexpected_unplaced, Reading.unplaced_error]

end Slot

/-- Without their places lexemes are the same when their tokens are. -/
theorem Lexeme.map_unplaced_eq_iff {left right : List Lexeme} :
    left.map unplaced = right.map unplaced ↔ tokens left = tokens right := by
  -- A token is a lexeme without its place, and either can be made of the other.
  constructor
  · intro same
    have erased (lexemes : List Lexeme) : tokens (lexemes.map unplaced) = tokens lexemes :=
      List.map_map
    rw [← erased left, same, erased]
  · intro same
    have restored (lexemes : List Lexeme) :
        (tokens lexemes).map (fun token => ⟨token.tag, token.text, .origin⟩) =
          lexemes.map unplaced := by
      simp [tokens, unplaced, Function.comp_def]
    rw [← restored left, same, restored]

namespace Pattern

/-- A type path is read from its tokens, wherever they stand. -/
theorem readPath_unplaced (finish last : Lexeme) (lexemes : List Lexeme) :
    readPath finish.unplaced last.unplaced (lexemes.map Lexeme.unplaced) =
      (Reading.unplaced (readPath finish last lexemes)).map fun (last, behind) =>
        (last.unplaced, behind) := by
  -- Separators and segments are told by their kinds.
  fun_induction readPath finish last lexemes with
  | _ => simp_all [readPath, Except.map]

/-- A list is read from its tokens, wherever they stand. -/
theorem readList_unplaced (finish : Lexeme) (lexemes : List Lexeme) :
    readList finish.unplaced (lexemes.map Lexeme.unplaced) =
      Reading.unplaced (readList finish lexemes) := by
  have slots := Slot.readAll_unplaced finish [] lexemes
  -- A bracket right behind the first one ends the list, which is seen by its kind.
  cases lexemes with
  | nil =>
    rw [List.map_nil] at slots ⊢
    simp only [readList, slots]
    cases Slot.readAll finish [] [] <;> rfl
  | cons first rest =>
    rw [List.map_cons] at slots ⊢
    by_cases closes : first.tag = .rightBracket
    · simp [readList, closes]
    · simp only [readList, Lexeme.unplaced_tag, closes, if_false, slots]
      cases Slot.readAll finish [] (first :: rest) <;> rfl

/-- Only a type path is read from more than tokens. -/
theorem read_unplaced (options : PatternOptions) (source other : String) (finish : Lexeme)
    {lexemes : List Lexeme} (pathless : lexemes.head?.map Lexeme.tag ≠ some .identifier) :
    read options other finish.unplaced (lexemes.map Lexeme.unplaced) =
      Reading.unplaced (read options source finish lexemes) := by
  -- Besides paths there is one reader for each kind of the first lexeme.
  cases lexemes with
  | nil => rfl
  | cons first rest =>
    simp only [List.map_cons, read, Lexeme.unplaced_tag]
    cases tag : first.tag
    case identifier => exact absurd (congrArg some tag) pathless
    case underscore => rfl
    case leftParen =>
      simp only [ConsPattern.read_unplaced]
      cases ConsPattern.read finish [] [] rest <;> rfl
    case leftBracket => exact readList_unplaced finish rest
    case quotation | integer | float | unterminated =>
      rw [Lexeme.literal_unplaced]
      cases first.literal <;> rfl
    all_goals simp

/-- A path goes as far as there are separators, so none is left behind it. -/
theorem separator_of_readPath {finish first last : Lexeme} {lexemes behind : List Lexeme}
    (done : readPath finish first lexemes = .ok (last, behind)) :
    behind.head?.map Lexeme.tag ≠ some .pathSeparator := by
  -- A path is left at its end, and in all other cases it goes on or fails.
  fun_induction readPath finish first lexemes with
  | case1 => cases done; simp
  | case3 | case4 => cases done; simpa
  | case6 => rename_i ih; exact ih done
  | _ => cases done

/-- A path that was read is named by the piece of the text that it stands on. -/
theorem slice_of_readPath {source : String} {finish first last : Lexeme}
    {rest behind : List Lexeme} (short : byteLength source.toList ≤ Span.limit)
    (lexemes : Lexeme.ofText source = first :: rest) (named : first.tag = .identifier)
    (done : readPath finish first rest = .ok (last, behind)) :
    ∃ path, LeadingPath (Token.ofChars source.toList) path ∧
      (first.span.cover last.span).slice source = String.ofList (joined path) := by
  -- The segments of the path are the solid tokens of some piece in front.
  have ends := separator_of_readPath done
  obtain ⟨path, rfl, final, segments, form⟩ := path_of_readPath named done
  exact Lexeme.exists_leadingPath short lexemes final form ends

/-- The first token is that of the first lexeme. -/
theorem tokens_head (lexemes : List Lexeme) :
    (Lexeme.tokens lexemes).head?.map Token.tag = lexemes.head?.map Lexeme.tag := by
  -- Tokens are taken from lexemes one by one.
  cases lexemes <;> rfl

/-- Paths of the same tokens are both refused or both read, and leave the same tokens. -/
theorem readPath_alike {finish finish' first first' : Lexeme} {rest rest' : List Lexeme}
    (ends : finish.unplaced = finish'.unplaced) (starts : first.unplaced = first'.unplaced)
    (same : rest.map Lexeme.unplaced = rest'.map Lexeme.unplaced) :
    (∃ rejection rejection', readPath finish first rest = .error rejection ∧
        readPath finish' first' rest' = .error rejection' ∧
        rejection.unplaced = rejection'.unplaced) ∨
      ∃ last last' behind behind', readPath finish first rest = .ok (last, behind) ∧
        readPath finish' first' rest' = .ok (last', behind') ∧
        behind.map Lexeme.unplaced = behind'.map Lexeme.unplaced := by
  -- Both readings are one when places are left out, so one fails where the other does.
  have placeless := readPath_unplaced finish first rest
  rw [ends, starts, same, readPath_unplaced] at placeless
  cases done : readPath finish first rest with
  | error rejection =>
    cases done' : readPath finish' first' rest' with
    | error rejection' =>
      rw [done, done'] at placeless
      exact .inl ⟨_, _, rfl, rfl, (Except.error.inj placeless).symm⟩
    | ok reading' =>
      rw [done, done'] at placeless
      cases placeless
  | ok reading =>
    obtain ⟨last, behind⟩ := reading
    cases done' : readPath finish' first' rest' with
    | error rejection' =>
      rw [done, done'] at placeless
      cases placeless
    | ok reading' =>
      obtain ⟨last', behind'⟩ := reading'
      rw [done, done'] at placeless
      exact .inr ⟨_, _, _, _, rfl, rfl, (Prod.mk.inj (Except.ok.inj placeless)).2.symm⟩

/-- Texts of the same tokens read alike when they name a path that stands in front alike. -/
theorem read_alike (options : PatternOptions) {source other : String}
    (short : byteLength source.toList ≤ Span.limit)
    (short' : byteLength other.toList ≤ Span.limit)
    (same : solid (Token.ofChars source.toList) = solid (Token.ofChars other.toList))
    (agree : ∀ path path', LeadingPath (Token.ofChars source.toList) path →
      LeadingPath (Token.ofChars other.toList) path' → joined path = joined path') :
    Reading.unplaced (read options source (.finish source) (Lexeme.ofText source)) =
      Reading.unplaced (read options other (.finish other) (Lexeme.ofText other)) := by
  rw [← Lexeme.tokens_ofText, ← Lexeme.tokens_ofText] at same
  have erased := Lexeme.map_unplaced_eq_iff.mpr same
  have ends : (Lexeme.finish source).unplaced = (Lexeme.finish other).unplaced := rfl
  by_cases path : (Lexeme.ofText source).head?.map Lexeme.tag = some .identifier
  · obtain ⟨first, starts, named⟩ := Option.map_eq_some_iff.mp path
    obtain ⟨rest, lexemes⟩ := List.head?_eq_some_iff.mp starts
    rw [lexemes] at same erased
    obtain ⟨first', rest', lexemes', -, -⟩ := Lexeme.exists_of_tokens_eq_cons same.symm
    rw [lexemes'] at same erased
    obtain ⟨begins, following⟩ := List.cons.inj erased
    have named' : first'.tag = .identifier := (congrArg Lexeme.tag begins).symm.trans named
    rw [lexemes, lexemes']
    simp only [read, named, named']
    rcases readPath_alike ends begins following with
      ⟨rejection, rejection', done, done', fault⟩ |
        ⟨last, last', behind, behind', done, done', left⟩
    · rw [done, done']
      exact congrArg Except.error fault
    · rw [done, done']
      obtain ⟨path, own, slice⟩ := slice_of_readPath short lexemes named done
      obtain ⟨path', own', slice'⟩ := slice_of_readPath short' lexemes' named' done'
      -- Both texts name the path alike, so one is known exactly when the other is.
      simp only [ofPath, slice, slice', agree path path' own own']
      split <;> simp [Except.map, left]
  · have path' : (Lexeme.ofText other).head?.map Lexeme.tag ≠ some .identifier := by
      rwa [← tokens_head, ← same, tokens_head]
    rw [← read_unplaced options source source _ path, ← read_unplaced options other source _ path',
      erased, ends]

/-- Reading a whole text gives the verdict on what was read. -/
theorem readWhole_eq_verdict (options : PatternOptions) (source : String) :
    (readWhole options source).mapError PatternRejection.fault =
      Reading.verdict (read options source (.finish source) (Lexeme.ofText source)) := by
  -- Only a pattern with something behind it is turned down afterwards.
  unfold readWhole
  split <;> simp_all [Except.mapError, Reading.verdict]

/-- The fault of a text, or its pattern, is the verdict on what was read. -/
theorem parseWith_eq_verdict (options : PatternOptions) (source : String) :
    (parseWith options source).mapError (fun error => error.fault) =
      Reading.verdict (read options source (.finish source) (Lexeme.ofText source)) := by
  -- The text is added to a rejection and does not change its fault.
  rw [← readWhole_eq_verdict, parseWith]
  cases readWhole options source <;> rfl

/--
Blanks make no difference: not to the pattern, and not to the fault when there is none.

Only the piece of the text from the first to the last segment of a type path has to be the same,
because a type tag is named by it. It is the same where no blank stands beside a separator.
-/
theorem parseWith_ignores_blanks (options : PatternOptions) {source other : String}
    (short : byteLength source.toList ≤ Span.limit)
    (short' : byteLength other.toList ≤ Span.limit)
    (same : solid (Token.ofChars source.toList) = solid (Token.ofChars other.toList)) :
    ((∀ path path', LeadingPath (Token.ofChars source.toList) path →
        LeadingPath (Token.ofChars other.toList) path' → joined path = joined path') →
      (parseWith options source).mapError (fun error => error.fault) =
        (parseWith options other).mapError (fun error => error.fault)) ∧
    (((solid (Token.ofChars source.toList)).head?.map Token.tag = some .identifier →
        Token.Unbroken (Token.ofChars source.toList) ∧
          Token.Unbroken (Token.ofChars other.toList)) →
      (parseWith options source).mapError (fun error => error.fault) =
        (parseWith options other).mapError (fun error => error.fault)) := by
  -- Nothing but the piece that names a path is looked at besides the tokens.
  have whenever (agree : ∀ path path', LeadingPath (Token.ofChars source.toList) path →
      LeadingPath (Token.ofChars other.toList) path' → joined path = joined path') :
      (parseWith options source).mapError (fun error => error.fault) =
        (parseWith options other).mapError (fun error => error.fault) := by
    have alike := read_alike options short short' same agree
    rw [parseWith_eq_verdict, parseWith_eq_verdict, ← Reading.verdict_unplaced, alike,
      Reading.verdict_unplaced]
  refine ⟨whenever, fun unbroken => whenever fun path path' own own' => ?_⟩
  obtain ⟨whole, whole'⟩ := unbroken own.solid_first
  rw [own.eq_solid whole, own'.eq_solid whole', own.solid_eq own' same]

/-- Blanks around a path, which has blanks beside its separator in both texts or in neither. -/
theorem parseWith_ignores_blanks_around_path :
    solid (Token.ofChars "Monads :: State".toList) =
        solid (Token.ofChars " Monads :: State ".toList) ∧
      (parse "Monads :: State").mapError (fun error => error.fault) =
        (parse " Monads :: State ").mapError (fun error => error.fault) ∧
      Token.Unbroken (Token.ofChars " Monads::State ".toList) ∧
      (parse "Monads::State").mapError (fun error => error.fault) =
        (parse " Monads::State ").mapError (fun error => error.fault) := by
  let blank : Token := ⟨.whitespace, [' ']⟩
  let first : Token := ⟨.identifier, "Monads".toList⟩
  let mark : Token := ⟨.pathSeparator, "::".toList⟩
  let last : Token := ⟨.identifier, "State".toList⟩
  have wide : Token.ofChars "Monads :: State".toList = [first, blank, mark, blank, last] := by
    decide +kernel
  have wide' : Token.ofChars " Monads :: State ".toList =
      [blank, first, blank, mark, blank, last, blank] := by decide +kernel
  have narrow : Token.ofChars "Monads::State".toList = [first, mark, last] := by decide +kernel
  have narrow' : Token.ofChars " Monads::State ".toList = [blank, first, mark, last, blank] := by
    decide +kernel
  have form : Separated .pathSeparator NameForm ([first] ++ mark :: [last])
      [first.text, last.text] := .more (.name rfl) rfl (.one (.name rfl))
  have path : LeadingPath (Token.ofChars "Monads :: State".toList)
      [first, blank, mark, blank, last] :=
    ⟨⟨[], [], wide, rfl, by decide⟩, rfl, rfl, _, form⟩
  have path' : LeadingPath (Token.ofChars " Monads :: State ".toList)
      [first, blank, mark, blank, last] :=
    ⟨⟨[blank], [blank], wide', rfl, by decide⟩, rfl, rfl, _, form⟩
  have unbroken : Token.Unbroken (Token.ofChars "Monads::State".toList) := by
    rw [narrow, Token.Unbroken]
    decide
  have unbroken' : Token.Unbroken (Token.ofChars " Monads::State ".toList) := by
    rw [narrow', Token.Unbroken]
    decide
  have same : solid (Token.ofChars "Monads :: State".toList) =
      solid (Token.ofChars " Monads :: State ".toList) := by
    rw [wide, wide']
    decide
  have alike := (parseWith_ignores_blanks {} (by decide) (by decide) same).1
    fun _ _ own own' => by rw [own.unique path, own'.unique path']
  have same' : solid (Token.ofChars "Monads::State".toList) =
      solid (Token.ofChars " Monads::State ".toList) := by
    rw [narrow, narrow']
    decide
  have alike' := (parseWith_ignores_blanks {} (by decide) (by decide) same').2
    fun _ => ⟨unbroken, unbroken'⟩
  exact ⟨same, alike, unbroken', alike'⟩

/-- Two segments are named by all that stands from the first to the second. -/
theorem parseWith_of_two_segments {options : PatternOptions} {source : String}
    {first mark last : Lexeme} (lexemes : Lexeme.ofText source = [first, mark, last])
    (begins : first.tag = .identifier) (between : mark.tag = .pathSeparator)
    (ends : last.tag = .identifier) :
    (parseWith options source).mapError (fun error => error.fault) =
      if options.isTypeName ((first.span.cover last.span).slice source) then
        .ok (.typeTag ((first.span.cover last.span).slice source))
      else .error (.unknownType ((first.span.cover last.span).slice source)) := by
  -- The path is read from the three lexemes, and the options have the last word.
  rw [parseWith_eq_verdict, lexemes]
  have path : readPath (.finish source) first [mark, last] = .ok (last, []) := by
    simp [readPath, between, ends]
  simp only [read, begins, path, ofPath]
  split <;> rfl

/-- With blanks beside its separator a path is read no more, because it names another type. -/
theorem blanks_beside_separator_count :
    solid (Token.ofChars "Monads::State".toList) =
        solid (Token.ofChars "Monads :: State".toList) ∧
      (parse "Monads::State").mapError (fun error => error.fault) =
        .ok (.typeTag "Monads::State") ∧
      (parse "Monads :: State").mapError (fun error => error.fault) =
        .error (.unknownType "Monads :: State") := by
  refine ⟨by decide +kernel, ?_, ?_⟩
  · have lexemes : Lexeme.ofText "Monads::State" =
        [⟨.identifier, "Monads", ⟨0, 6⟩⟩, ⟨.pathSeparator, "::", ⟨6, 8⟩⟩,
          ⟨.identifier, "State", ⟨8, 13⟩⟩] := by decide +kernel
    have name : Span.slice ⟨0, 13⟩ "Monads::State" = "Monads::State" := by decide +kernel
    have known : PatternOptions.isTypeName {} "Monads::State" = true := by decide +kernel
    rw [parse, parseWith_of_two_segments lexemes rfl rfl rfl, Span.cover, name, if_pos known]
  · have lexemes : Lexeme.ofText "Monads :: State" =
        [⟨.identifier, "Monads", ⟨0, 6⟩⟩, ⟨.pathSeparator, "::", ⟨7, 9⟩⟩,
          ⟨.identifier, "State", ⟨10, 15⟩⟩] := by decide +kernel
    have name : Span.slice ⟨0, 15⟩ "Monads :: State" = "Monads :: State" := by decide +kernel
    have unknown : ¬PatternOptions.isTypeName {} "Monads :: State" = true := by decide +kernel
    rw [parse, parseWith_of_two_segments lexemes rfl rfl rfl, Span.cover, name, if_neg unknown]

end Pattern

end Motif
