import Motif.Proofs.Pattern.Reading

/-!
Why lexemes cannot be read.

Every reader names a lexeme that stands in its way, or two that a cons pattern cannot be made of.
-/

namespace Motif

open Lexeme (tokens)
open Token (names)

/-- What messages name as missing. -/
def expectations : List String :=
  ["a pattern", "a binder or `_`", "`:` or `)`", "a literal, binder, `_` or cons pattern",
    "`,` or `]`", "a type name segment"]

/--
The ways in which lexemes are rejected, with the lexeme that is named and what stands around it.

The end of the text is a lexeme behind all others. Names that were read before are taken.
-/
inductive Rejects (finish : Lexeme) (taken : List String) (lexemes : List Lexeme) :
    PatternRejection → Prop
  | unexpected (front behind : List Lexeme) {lexeme : Lexeme} {expected : String}
      (split : lexemes ++ [finish] = front ++ lexeme :: behind)
      (missing : expected ∈ expectations) :
      Rejects finish taken lexemes (lexeme.unexpected expected)
  | unnamedHead (front behind : List Lexeme) {segment : Lexeme}
      (split : lexemes = front ++ segment :: behind) (wild : segment.tag = .underscore) :
      Rejects finish taken lexemes ⟨.unexpectedToken "a binder" "`_`", segment.span⟩
  | name (front behind : List Lexeme) {lexeme : Lexeme} {rejection : PatternRejection}
      (split : lexemes = front ++ lexeme :: behind) (tag : lexeme.tag = .identifier)
      (refused : lexeme.freshBinder (taken ++ names (tokens front)) = .error rejection) :
      Rejects finish taken lexemes rejection
  | loneSegment (front behind : List Lexeme) {segment mark : Lexeme}
      (split : lexemes = front ++ segment :: mark :: behind) :
      Rejects finish taken lexemes ⟨.missingTail, segment.span.cover mark.span⟩
  | nestedList (front behind : List Lexeme) {lexeme : Lexeme}
      (split : lexemes = front ++ lexeme :: behind) (opens : lexeme.tag = .leftBracket) :
      Rejects finish taken lexemes ⟨.nestedList, lexeme.span⟩
  | literal (front behind : List Lexeme) {lexeme : Lexeme} {rejection : PatternRejection}
      (split : lexemes = front ++ lexeme :: behind)
      (tag : lexeme.tag.isLiteral = true ∨ lexeme.tag = .unterminated)
      (refused : lexeme.literal = .error rejection) : Rejects finish taken lexemes rejection

/-- A result that was computed from another fails only where that one does. -/
theorem map_eq_error_iff {ε α β : Type} {result : Except ε α} {f : α → β} {error : ε} :
    result.map f = .error error ↔ result = .error error := by
  cases result <;> simp [Except.map]

variable {finish : Lexeme} {taken heads : List String} {lexemes : List Lexeme}
  {rejection : PatternRejection}

/-- The end itself stands in the way of lexemes that end too early. -/
theorem Rejects.of_finish {expected : String} (missing : expected ∈ expectations) :
    Rejects finish taken lexemes (finish.unexpected expected) :=
  .unexpected lexemes [] rfl missing

/-- A rejection behind some lexemes, whose names are taken, is one of all lexemes. -/
theorem Rejects.behind (front : List Lexeme)
    (rejected : Rejects finish (taken ++ names (tokens front)) lexemes rejection) :
    Rejects finish taken (front ++ lexemes) rejection := by
  -- Each way to reject is kept, with the lexemes in front added to those around it.
  cases rejected with
  | unexpected inner behind split missing =>
    exact .unexpected (front ++ inner) behind (by simp [split]) missing
  | unnamedHead inner behind split wild =>
    exact .unnamedHead (front ++ inner) behind (by simp [split]) wild
  | name inner behind split tag refused =>
    exact .name (front ++ inner) behind (by simp [split]) tag (by simpa using refused)
  | loneSegment inner behind split =>
    exact .loneSegment (front ++ inner) behind (by simp [split])
  | nestedList inner behind split opens =>
    exact .nestedList (front ++ inner) behind (by simp [split]) opens
  | literal inner behind split tag refused =>
    exact .literal (front ++ inner) behind (by simp [split]) tag refused

/-- A lexeme that has no name takes none. -/
theorem Rejects.behind_mark {mark : Lexeme} {tag : TokenTag} (kind : mark.tag = tag)
    (rejected : Rejects finish taken lexemes rejection)
    (nameless : tag ≠ .identifier := by decide) :
    Rejects finish taken (mark :: lexemes) rejection := by
  -- The names that are taken are the same with the mark and without it.
  have none : names (tokens [mark]) = [] := Token.names_cons_of_other kind [] nameless
  refine .behind [mark] ?_
  rwa [none, List.append_nil]

/-- A cons pattern is rejected by one of the ways, its own names being taken. -/
theorem ConsPattern.rejects_of_read
    (failed : read finish taken heads lexemes = .error rejection) :
    Rejects finish (taken ++ heads) lexemes rejection := by
  -- The cases are the branches of the reader, in which two succeed and one goes on.
  fun_induction read finish taken heads lexemes with
  | case9 | case11 => cases failed
  | case1 | case3 => cases failed; exact .of_finish (by simp [expectations])
  | case2 heads segment rest other =>
    cases failed
    exact .unexpected [] _ rfl (by simp [expectations])
  | case4 heads segment named mark behind colon wild =>
    cases failed
    exact .unnamedHead [] _ rfl wild
  | case6 heads segment named mark behind colon notWild name fresh ih =>
    -- The name of this head is taken for all that follow it.
    have tag : segment.token.tag = .identifier := by simpa [notWild] using named
    have between : mark.token.tag = .colon := colon
    obtain ⟨rfl, _⟩ := Lexeme.freshBinder_eq_ok_iff.mp fresh
    have taking : names (tokens [segment, mark]) = [segment.text] := by
      simp [Token.names_cons_of_identifier tag, Token.names_cons_of_other between]
    refine .behind [segment, mark] ?_
    rw [taking, List.append_assoc]
    exact ih failed
  | case7 heads segment named mark behind colon other =>
    cases failed
    exact .unexpected [segment] _ rfl (by simp [expectations])
  | case8 heads segment named mark behind colon closes none =>
    cases failed
    exact .loneSegment [] _ rfl
  | case5 heads segment named mark behind colon notWild refusal refused
  | case10 heads segment named mark behind colon closes some notWild refusal refused =>
    cases failed
    have tag : segment.tag = .identifier := by simpa [notWild] using named
    exact .name [] _ rfl tag (by simpa using refused)

namespace Slot

/-- A slot is rejected by one of the ways. -/
theorem rejects_of_read (failed : read finish taken lexemes = .error rejection) :
    Rejects finish taken lexemes rejection := by
  cases lexemes with
  | nil => cases failed; exact .of_finish (by simp [expectations])
  | cons first rest =>
    simp only [read] at failed
    -- Each kind of lexeme has a reader of its own, or is not expected at all.
    cases tag : first.tag <;> simp only [tag, map_eq_error_iff] at failed
    case quotation | integer | float | unterminated =>
      exact .literal [] _ rfl (by simp [tag, TokenTag.isLiteral]) failed
    case underscore => cases failed
    case identifier => exact .name [] _ rfl tag (by simpa using failed)
    case leftParen =>
      have inner := ConsPattern.rejects_of_read failed
      rw [List.append_nil] at inner
      exact inner.behind_mark tag
    case leftBracket => cases failed; exact .nestedList [] _ rfl tag
    all_goals
      cases failed
      exact .unexpected [] _ rfl (by simp [expectations])

/-- Slots are rejected by one of the ways, the names of those before being taken. -/
theorem rejects_of_readAll (own : ∀ lexeme ∈ lexemes, lexeme.token.InClass)
    (failed : readAll finish taken lexemes = .error rejection) :
    Rejects finish taken lexemes rejection := by
  -- A slot fails, or what follows it is not expected, or a later slot fails.
  fun_induction readAll finish taken lexemes with
  | case1 taken lexemes refusal refused =>
    cases failed
    exact rejects_of_read refused
  | case2 => cases failed; exact .of_finish (by simp [expectations])
  | case3 taken lexemes slot mark rest found comma ih =>
    -- The slot and the comma behind it have the names that the slot binds.
    obtain ⟨front, rfl, form, _⟩ := form_of_read own found
    have later := (List.forall_mem_cons.mp (List.forall_mem_append.mp own).2).2
    have between : mark.token.tag = .comma := comma
    have taking : names (tokens (front ++ [mark])) = slot.binders := by
      simp [form.names_eq, Token.names_cons_of_other between]
    have others := ih later (map_eq_error_iff.mp failed)
    rw [← taking] at others
    simpa using others.behind
  | case4 => cases failed
  | case5 taken lexemes slot mark rest found comma other =>
    cases failed
    obtain ⟨front, rfl, _⟩ := form_of_read own found
    exact .unexpected front (rest ++ [finish]) (by simp) (by simp [expectations])

end Slot

namespace Pattern

/-- Only what belongs to a path can be missing from it, so it does not matter what is taken. -/
theorem rejects_of_readPath {last : Lexeme}
    (failed : readPath finish last lexemes = .error rejection) :
    Rejects finish taken lexemes rejection := by
  fun_induction readPath finish last lexemes generalizing taken with
  | case1 | case3 | case4 => cases failed
  | case2 => cases failed; exact .of_finish (by simp [expectations])
  | case5 last mark segment rest separates other =>
    cases failed
    exact .unexpected [mark] _ rfl (by simp [expectations])
  | case6 last mark segment rest separates identifier ih =>
    exact .behind [mark, segment] (ih failed)

/-- A list is rejected where its slots are. -/
theorem rejects_of_readList (own : ∀ lexeme ∈ lexemes, lexeme.token.InClass)
    (failed : readList finish lexemes = .error rejection) :
    Rejects finish [] lexemes rejection := by
  -- An empty list is read before any slot is looked for.
  cases lexemes with
  | nil => exact Slot.rejects_of_readAll own (map_eq_error_iff.mp failed)
  | cons first rest =>
    rw [readList] at failed
    split at failed
    · cases failed
    · exact Slot.rejects_of_readAll own (map_eq_error_iff.mp failed)

/-- The ways in which a whole text is rejected: by its lexemes, by a path, or by what is left. -/
inductive RejectsText (options : PatternOptions) (source : String) : PatternRejection → Prop
  | blank (none : Lexeme.ofText source = []) :
      RejectsText options source ⟨.empty, (Lexeme.finish source).span⟩
  | lexemes {rejection : PatternRejection}
      (rejected : Rejects (.finish source) [] (Lexeme.ofText source) rejection) :
      RejectsText options source rejection
  | path {first last : Lexeme} {rest behind : List Lexeme} {rejection : PatternRejection}
      (split : Lexeme.ofText source = first :: rest ++ behind)
      (final : (first :: rest).getLast? = some last)
      (refused : ofPath options source first last = .error rejection) :
      RejectsText options source rejection
  | trailing {pattern : Pattern} {extra : Lexeme} {behind : List Lexeme}
      (done : read options source (.finish source) (Lexeme.ofText source) =
        .ok (pattern, extra :: behind)) :
      RejectsText options source ⟨.trailingInput, extra.span⟩

variable {options : PatternOptions} {source : String}

/-- What cannot be read is rejected for one of the ways. -/
theorem rejectsText_of_read
    (failed : read options source (.finish source) (Lexeme.ofText source) = .error rejection) :
    RejectsText options source rejection := by
  cases lexemes : Lexeme.ofText source with
  | nil =>
    rw [lexemes] at failed
    cases failed
    exact .blank lexemes
  | cons first rest =>
    rw [lexemes] at failed
    -- A path is named by the text, and all other rejections come from the lexemes alone.
    suffices Rejects (.finish source) [] (first :: rest) rejection ∨
        ∃ last behind, readPath (.finish source) first rest = .ok (last, behind) ∧
          first.tag = .identifier ∧ ofPath options source first last = .error rejection by
      rcases this with rejected | ⟨last, behind, done, tag, refused⟩
      · exact .lexemes (lexemes ▸ rejected)
      · obtain ⟨path, rfl, final, _⟩ := path_of_readPath tag done
        exact .path lexemes final refused
    simp only [read] at failed
    cases tag : first.tag <;> simp only [tag, map_eq_error_iff] at failed
    case quotation | integer | float | unterminated =>
      exact .inl (.literal [] _ rfl (by simp [tag, TokenTag.isLiteral]) failed)
    case underscore => cases failed
    case leftParen => exact .inl ((ConsPattern.rejects_of_read failed).behind_mark tag)
    case leftBracket =>
      have own : ∀ lexeme ∈ rest, lexeme.token.InClass :=
        fun _ member => Lexeme.inClass_of_mem (lexemes ▸ List.mem_cons_of_mem first member)
      exact .inl ((rejects_of_readList own failed).behind_mark tag)
    case identifier =>
      split at failed
      · rename_i refusal unread
        cases failed
        exact .inl (.behind [first] (rejects_of_readPath unread))
      · rename_i last behind done
        exact .inr ⟨last, behind, done, rfl, map_eq_error_iff.mp failed⟩
    all_goals
      cases failed
      exact .inl (.unexpected [] _ rfl (by simp [expectations]))

/-- Whatever a text is rejected for is one of the ways in which texts are rejected. -/
theorem rejectsText_of_parseWith {error : PatternError}
    (failed : parseWith options source = .error error) :
    error.pattern = source ∧ RejectsText options source error.toPatternRejection := by
  -- The text was not read, or it was and something is left behind the pattern.
  unfold parseWith readWhole at failed
  split at failed
  · rename_i refused
    cases failed
    exact ⟨rfl, rejectsText_of_read refused⟩
  · cases failed
  · rename_i done
    cases failed
    exact ⟨rfl, .trailing done⟩

end Pattern

end Motif
