import Motif.Proofs.LexemeCursor
import Motif.Proofs.Pattern.Rejection

/-!
Where a text is rejected.

A rejection has the place of lexemes that stand in the text, and what it says of them is what the
text has at that place.
-/

namespace Motif

open Token (names)

/-- The place of lexemes that stand one behind the other, from the first to the last of them. -/
def Lexeme.Spanned (lexemes : List Lexeme) (span : Span) : Prop :=
  ∃ front middle behind first last, lexemes = front ++ middle ++ behind ∧
    middle.head? = some first ∧ middle.getLast? = some last ∧ span = first.span.cover last.span

/-- A place in a text, from one boundary of characters to another. -/
structure Span.Within (source : String) (span : Span) : Prop where
  ordered : span.start ≤ span.stop
  inside : span.stop ≤ source.utf8ByteSize
  starts : String.Pos.Raw.IsValid source ⟨span.start⟩
  stops : String.Pos.Raw.IsValid source ⟨span.stop⟩
  /-- Only the end of the text is a place without characters. -/
  final : span.isEmpty = true → span.start = source.utf8ByteSize

/-- What a fault says of a text agrees with what stands at its place, or before it. -/
def PatternFault.AgreesWith (options : PatternOptions) (source : String) (span : Span) :
    PatternFault → Prop
  | invalidBinder name | unknownType name | invalidNumber name => name = span.slice source
  | duplicateBinder name => name = span.slice source ∧
      ∃ earlier ∈ Lexeme.ofText source, earlier.tag = .identifier ∧ earlier.text = name ∧
        earlier.span.stop ≤ span.start
  | unexpectedToken _ found => (found = "end of pattern" ↔ span.isEmpty = true) ∧
      (span.isEmpty = false → found = "`" ++ span.slice source ++ "`")
  | trailingInput =>
    ∃ pattern, Pattern.parseWith options (Span.slice ⟨0, span.start⟩ source) = .ok pattern
  | empty => ∀ char ∈ source.toList, IsBlank char
  -- The others name nothing that a text could have.
  | unterminatedString | nestedList | missingTail => True

/-- A rejection that is placed over lexemes of a text, the end included, and fits what they are. -/
structure PatternRejection.Located (options : PatternOptions) (source : String)
    (rejection : PatternRejection) : Prop where
  spanned : Lexeme.Spanned (LexemeCursor.ofText source).lexemes rejection.span
  within : rejection.span.Within source
  agrees : rejection.fault.AgreesWith options source rejection.span

/-- Blanks are the only text without lexemes. -/
theorem Lexeme.ofText_eq_nil_iff {source : String} :
    ofText source = [] ↔ ∀ char ∈ source.toList, IsBlank char := by
  -- Lexemes are the tokens that are no blanks, and those cover the text together.
  have tokens : Lexeme.tokens (ofText source) = [] ↔ ofText source = [] := List.map_eq_nil_iff
  rw [← tokens, tokens_ofText]
  constructor
  · intro none char member
    rw [← Token.joined_ofChars source.toList] at member
    obtain ⟨token, among, own⟩ := List.mem_flatMap.mp member
    have inClass := (Token.settled_ofChars source.toList).inClass token among
    simp only [Token.InClass, Token.solid_eq_nil_iff.mp none token among] at inClass
    exact inClass.2 char own
  · intro blank
    by_cases none : source.toList = []
    · rw [none, Token.ofChars]
      rfl
    · -- All blanks together are one token.
      have alone : Token.ofChars source.toList = [⟨.whitespace, source.toList⟩] :=
        Token.ofChars_eq_singleton_iff.mpr ⟨rfl, none, blank⟩
      rw [alone]
      rfl

section Places

variable {source : String} {lexeme : Lexeme}

/-- A single lexeme has its own place. -/
theorem Lexeme.Spanned.of_mem {lexemes : List Lexeme} (member : lexeme ∈ lexemes) :
    Spanned lexemes lexeme.span := by
  -- It is the first and the last of itself.
  obtain ⟨front, behind, split⟩ := List.append_of_mem member
  exact ⟨front, [lexeme], behind, lexeme, lexeme, by simpa using split, rfl, rfl, rfl⟩

/-- Lexemes of a text have a place there together, and so has each of them. -/
theorem Lexeme.Spanned.of_split (short : byteLength source.toList ≤ Span.limit)
    {front middle behind : List Lexeme} {first last : Lexeme}
    (split : ofText source = front ++ middle ++ behind) (starts : middle.head? = some first)
    (ends : middle.getLast? = some last) :
    Spanned (LexemeCursor.ofText source).lexemes (first.span.cover last.span) := by
  -- The end stands behind all of them.
  have whole : (LexemeCursor.ofText source).lexemes =
      front ++ middle ++ (behind ++ [finish source]) := by
    rw [← List.append_assoc, ← split]
    exact lexemes_ofText short
  exact ⟨front, middle, _, first, last, whole, starts, ends, rfl⟩

/-- The place of a lexeme of a text has the characters of that lexeme. -/
theorem Lexeme.within_of_slice {text : List Char}
    (slice : sliceBytes? lexeme.span.start lexeme.span.stop source.toList = some text) :
    lexeme.span.start ≤ lexeme.span.stop ∧ lexeme.span.stop ≤ source.utf8ByteSize ∧
      String.Pos.Raw.IsValid source ⟨lexeme.span.start⟩ ∧
      String.Pos.Raw.IsValid source ⟨lexeme.span.stop⟩ := by
  -- Before the cut and behind it there are characters, or nothing.
  obtain ⟨before, after, split, start, stop⟩ := sliceBytes?_eq_some_iff.mp slice
  have bytes := congrArg byteLength split
  rw [byteLength_toList] at bytes
  simp only [byteLength_append] at bytes
  have behind : source.toList = (before ++ text) ++ after := by rw [split, List.append_assoc]
  rw [start, stop]
  refine ⟨by omega, by omega, isValid_of_append split, ?_⟩
  simpa using isValid_of_append behind

/-- Lexemes of a text have characters. -/
theorem Lexeme.isEmpty_of_mem (short : byteLength source.toList ≤ Span.limit)
    (member : lexeme ∈ ofText source) : lexeme.span.isEmpty = false := by
  -- Its place has the bytes of its characters, and there is one of them at least.
  have slice := slice_of_mem_locate short (Token.joined_ofChars source.toList)
    (List.mem_of_mem_filter member)
  obtain ⟨before, after, -, start, stop⟩ := sliceBytes?_eq_some_iff.mp slice
  have some := byteLength_pos (inClass_of_mem member).chars_ne_nil
  simp only [Lexeme.token_chars] at some
  simp only [Span.isEmpty, decide_eq_false_iff_not, start, stop]
  omega

/-- From the start of a lexeme to the end of the same or a later one there is a place. -/
theorem Lexeme.Spanned.within (short : byteLength source.toList ≤ Span.limit) {span : Span}
    (spanned : Spanned (LexemeCursor.ofText source).lexemes span) : span.Within source := by
  obtain ⟨front, middle, behind, first, last, split, starts, ends, rfl⟩ := spanned
  have stand := stand_lexemes short
  rw [split] at stand
  have among {lexeme : Lexeme} (member : lexeme ∈ middle) : lexeme ∈ front ++ middle ++ behind := by
    simp [member]
  obtain ⟨forward, -, start, -⟩ := within_of_slice
    (stand.slice first (among (List.mem_of_head? starts)))
  obtain ⟨forward', inside, -, stop⟩ := within_of_slice
    (stand.slice last (among (List.mem_of_getLast? ends)))
  -- Start and stop are known from the lexemes, so their order is left.
  obtain ⟨others, rfl⟩ := List.head?_eq_some_iff.mp starts
  -- Either the first lexeme is also the last one, or the last one starts behind it.
  rcases List.eq_nil_or_concat others with rfl | ⟨between, final, rfl⟩
  · obtain rfl : first = last := by simpa using ends
    refine ⟨forward, inside, start, stop, fun none => ?_⟩
    rw [Span.cover_self] at none
    have member : first ∈ ofText source ++ [finish source] := by
      rw [← lexemes_ofText short, split]
      exact among (by simp)
    rcases List.mem_append.mp member with own | final
    · rw [isEmpty_of_mem short own] at none
      cases none
    · rw [List.mem_singleton.mp final, finish_eq short]
      rfl
  · obtain rfl : final = last := by simpa [List.getLast?_cons] using ends
    have order := stand.ordered
    rw [List.pairwise_append, List.pairwise_append] at order
    have later := (List.pairwise_cons.mp order.1.2.1).1 final (by simp)
    refine ⟨?_, inside, start, stop, fun none => ?_⟩
    · simp only [Span.cover]
      omega
    · have backward : final.span.stop ≤ first.span.start := of_decide_eq_true none
      omega

end Places

section Faults

variable {options : PatternOptions} {source : String} {lexeme : Lexeme}
  {rejection : PatternRejection}

/-- A single lexeme of a text, or the end, is a place for a rejection that fits it. -/
theorem PatternRejection.Located.of_mem (short : byteLength source.toList ≤ Span.limit)
    (member : lexeme ∈ Lexeme.ofText source ++ [.finish source])
    (place : rejection.span = lexeme.span)
    (agrees : rejection.fault.AgreesWith options source lexeme.span) :
    rejection.Located options source := by
  -- The lexeme is one of those that a cursor has, the end included.
  have spanned : Lexeme.Spanned (LexemeCursor.ofText source).lexemes lexeme.span := by
    refine .of_mem ?_
    rw [← Lexeme.lexemes_ofText short] at member
    exact member
  rw [← place] at spanned agrees
  exact ⟨spanned, spanned.within short, agrees⟩

/-- A lexeme that was found in place of another is shown as it stands in the text. -/
theorem Lexeme.located_unexpected (short : byteLength source.toList ≤ Span.limit)
    (member : lexeme ∈ ofText source ++ [finish source]) (expected : String) :
    (lexeme.unexpected expected).Located options source := by
  by_cases unclosed : lexeme.tag = .unterminated
  · rw [unexpected, if_pos unclosed]
    exact .of_mem short member rfl trivial
  · rw [unexpected, if_neg unclosed]
    refine .of_mem short member rfl ?_
    -- A lexeme of the text is shown in quotes, and the end is named.
    rcases List.mem_append.mp member with own | final
    · have some := isEmpty_of_mem short own
      have more : lexeme.tag ≠ .finish := (inClass_of_mem own).tag_ne_finish
      have shown : lexeme.found = "`" ++ lexeme.span.slice source ++ "`" := by
        rw [slice_of_mem short own, found]
        split <;> simp_all
      refine ⟨?_, fun _ => shown⟩
      rw [shown, some]
      refine iff_of_false (fun same => ?_) (by simp)
      have quoted := congrArg (fun text => text.toList.head?) same
      simp at quoted
    · rw [List.mem_singleton.mp final, finish_eq short]
      exact ⟨by simp [found, TokenTag.name, Span.isEmpty], by simp [Span.isEmpty]⟩

/-- A name that is refused is the text of its lexeme, and a name that is taken stands before it. -/
theorem Lexeme.located_freshBinder (short : byteLength source.toList ≤ Span.limit)
    {front behind : List Lexeme} (split : ofText source = front ++ lexeme :: behind)
    (refused : lexeme.freshBinder (names (tokens front)) = .error rejection) :
    rejection.Located options source := by
  have own : lexeme ∈ ofText source := by simp [split]
  have slice := (slice_of_mem short own).symm
  unfold freshBinder at refused
  split_ifs at refused with lower taken <;> cases refused
  · refine .of_mem short (List.mem_append_left _ own) rfl ⟨slice, ?_⟩
    -- The name is taken by an identifier in front, whose lexeme stands before this one.
    obtain ⟨token, among, tag, same⟩ := Token.exists_of_mem_names taken
    obtain ⟨earlier, member, rfl⟩ := List.mem_map.mp among
    have order := (stand_lexemes short).ordered
    rw [lexemes_ofText short, split, List.append_assoc, List.pairwise_append] at order
    exact ⟨earlier, by simp [split, member], tag, by simpa using same,
      (order.2.2 earlier member lexeme (by simp)).2⟩
  · exact .of_mem short (List.mem_append_left _ own) rfl slice

/-- A literal that is refused is the text of its lexeme, or an open quotation. -/
theorem Lexeme.located_literal (short : byteLength source.toList ≤ Span.limit)
    (own : lexeme ∈ ofText source)
    (tag : lexeme.tag.isLiteral = true ∨ lexeme.tag = .unterminated)
    (refused : lexeme.literal = .error rejection) : rejection.Located options source := by
  have member : lexeme ∈ ofText source ++ [finish source] := List.mem_append_left _ own
  unfold literal at refused
  cases kind : lexeme.tag <;> simp only [kind] at refused tag
  case quotation => cases refused
  case integer | float =>
    split at refused <;> cases refused
    exact .of_mem short member rfl (slice_of_mem short own).symm
  case unterminated =>
    cases refused
    exact .of_mem short member rfl trivial
  -- Lexemes of all other kinds are no literals.
  all_goals simp [TokenTag.isLiteral] at tag

/-- A path that names no type is placed over all of its segments. -/
theorem Pattern.located_ofPath (short : byteLength source.toList ≤ Span.limit)
    {first last : Lexeme} {rest behind : List Lexeme}
    (split : Lexeme.ofText source = first :: rest ++ behind)
    (final : (first :: rest).getLast? = some last)
    (refused : ofPath options source first last = .error rejection) :
    rejection.Located options source := by
  -- The name that is refused is the piece of the text from the first to the last segment.
  have whole : Lexeme.ofText source = [] ++ (first :: rest) ++ behind := by simpa using split
  have spanned := Lexeme.Spanned.of_split short whole rfl final
  simp only [ofPath] at refused
  split at refused <;> cases refused
  exact ⟨spanned, spanned.within short, rfl⟩

/-- Whatever a text is rejected for, the place is that of lexemes which the fault fits. -/
theorem Pattern.RejectsText.located (short : byteLength source.toList ≤ Span.limit)
    (rejected : RejectsText options source rejection) : rejection.Located options source := by
  cases rejected with
  | blank none =>
    exact .of_mem short (by simp) rfl (Lexeme.ofText_eq_nil_iff.mp none)
  | path split final refused => exact located_ofPath short split final refused
  | @trailing pattern extra behind done =>
    obtain ⟨front, split, -⟩ := exists_front_of_read (fun _ => Lexeme.inClass_of_mem) done
    exact .of_mem short (by simp [split]) rfl ⟨pattern, parseWith_front short done⟩
  | lexemes rejected =>
    cases rejected with
    | unexpected front behind split missing =>
      exact Lexeme.located_unexpected short (by simp [split]) _
    | @unnamedHead front behind segment split wild =>
      have own : segment ∈ Lexeme.ofText source := by simp [split]
      have text : segment.text = "_" := by
        have inClass := Lexeme.inClass_of_mem own
        simp only [Token.InClass, Lexeme.token_tag, wild, Lexeme.token_chars] at inClass
        rw [← String.ofList_toList (s := segment.text), inClass]
      refine .of_mem short (List.mem_append_left _ own) rfl ?_
      simp [PatternFault.AgreesWith, Lexeme.isEmpty_of_mem short own, Lexeme.slice_of_mem short own,
        text]
    | name front behind split tag refused => exact Lexeme.located_freshBinder short split refused
    | @loneSegment front behind segment mark split =>
      have whole : Lexeme.ofText source = front ++ [segment, mark] ++ behind := by simp [split]
      have spanned := Lexeme.Spanned.of_split short whole rfl rfl
      exact ⟨spanned, spanned.within short, trivial⟩
    | nestedList front behind split opens =>
      exact .of_mem short (by simp [split]) rfl trivial
    | literal front behind split tag refused =>
      exact Lexeme.located_literal short (by simp [split]) tag refused

end Faults

/--
A rejection stands over the lexemes that it is about.

Its place goes from the start of a lexeme, or of the end, to the end of the same or a later one, and
what it says is what the text has there. A name that is bound twice stands farther in front too, and
the text before what is left over is a pattern. A text is called empty when it is all blanks.
-/
theorem rejections_stand_over_lexemes (options : PatternOptions) {source : String}
    (short : byteLength source.toList ≤ Span.limit) :
    (∀ error, Pattern.parseWith options source = .error error →
      error.pattern = source ∧ error.toPatternRejection.Located options source) ∧
    ((∃ error, Pattern.parseWith options source = .error error ∧ error.fault = .empty) ↔
      ∀ char ∈ source.toList, char ∈ [' ', '\t', '\n', '\x0c', '\r']) := by
  -- Every way to reject a text has its place, so both halves follow from it.
  have located : ∀ error, Pattern.parseWith options source = .error error →
      error.pattern = source ∧ error.toPatternRejection.Located options source := by
    intro error failed
    obtain ⟨text, rejected⟩ := Pattern.rejectsText_of_parseWith failed
    exact ⟨text, rejected.located short⟩
  refine ⟨located, ?_⟩
  constructor
  · rintro ⟨error, failed, fault⟩
    have agrees := (located error failed).2.agrees
    rw [fault] at agrees
    exact agrees
  · intro blank
    -- Without lexemes there is only the end to read.
    have none := Lexeme.ofText_eq_nil_iff.mpr blank
    refine ⟨⟨⟨.empty, (Lexeme.finish source).span⟩, source⟩, ?_, rfl⟩
    simp [Pattern.parseWith, Pattern.readWhole, none, Pattern.read, Except.mapError]

/-- A name behind a wide character is bound twice, a cons has no tail, and a list is left over. -/
theorem rejections_stand_over_lexemes_of_names :
    let twice := "['é', x, (y : x)]"
    let lone := "['é', (x )]"
    let rest := " 12 [x]"
    byteLength twice.toList ≤ Span.limit ∧ byteLength lone.toList ≤ Span.limit ∧
      byteLength rest.toList ≤ Span.limit ∧
      Pattern.parseWith {} twice = .error ⟨⟨.duplicateBinder "x", ⟨15, 16⟩⟩, twice⟩ ∧
      PatternRejection.Located {} twice ⟨.duplicateBinder "x", ⟨15, 16⟩⟩ ∧
      Pattern.parseWith {} lone = .error ⟨⟨.missingTail, ⟨8, 11⟩⟩, lone⟩ ∧
      PatternRejection.Located {} lone ⟨.missingTail, ⟨8, 11⟩⟩ ∧
      Pattern.parseWith {} rest = .error ⟨⟨.trailingInput, ⟨4, 5⟩⟩, rest⟩ ∧
      PatternRejection.Located {} rest ⟨.trailingInput, ⟨4, 5⟩⟩ := by
  intro twice lone rest
  have short : byteLength twice.toList ≤ Span.limit := by decide
  have shortLone : byteLength lone.toList ≤ Span.limit := by decide
  have shortRest : byteLength rest.toList ≤ Span.limit := by decide
  have failed : Pattern.parseWith {} twice =
      .error ⟨⟨.duplicateBinder "x", ⟨15, 16⟩⟩, twice⟩ := by cbv
  have failedLone : Pattern.parseWith {} lone = .error ⟨⟨.missingTail, ⟨8, 11⟩⟩, lone⟩ := by cbv
  have failedRest : Pattern.parseWith {} rest = .error ⟨⟨.trailingInput, ⟨4, 5⟩⟩, rest⟩ := by cbv
  exact ⟨short, shortLone, shortRest, failed,
    ((rejections_stand_over_lexemes {} short).1 _ failed).2, failedLone,
    ((rejections_stand_over_lexemes {} shortLone).1 _ failedLone).2, failedRest,
    ((rejections_stand_over_lexemes {} shortRest).1 _ failedRest).2⟩

end Motif
