import Motif.LexemeCursor
import Motif.Proofs.Pattern.Front

/-!
A cursor that takes one lexeme after the other reaches the end and never leaves it.

Reading a pattern takes lexemes as such a cursor does.
-/

namespace Motif

open Token (solid)

namespace LexemeCursor

/-- A way to move a cursor. -/
inductive Move where
  | advance
  | eat (tag : TokenTag)

/-- The cursor behind a move. -/
def move (cursor : LexemeCursor) : Move → LexemeCursor
  | .advance => cursor.advance.2
  | .eat tag => (cursor.eat tag).2

/-- The cursor behind some moves. -/
def run (cursor : LexemeCursor) (moves : List Move) : LexemeCursor :=
  moves.foldl move cursor

/-- A cursor that stands at one of its lexemes, the last of which is the end. -/
structure Inside (cursor : LexemeCursor) : Prop where
  within : cursor.position < cursor.lexemes.length
  ends : cursor.lexemes.getLast?.map Lexeme.tag = some .finish

variable {cursor : LexemeCursor}

/-- The lexeme at a cursor that stands at one is that lexeme, and nothing stands in for it. -/
theorem Inside.current_eq (inside : cursor.Inside) :
    cursor.lexemes[cursor.position]? = some cursor.current := by
  -- The place is one within the lexemes, so looking it up succeeds.
  rw [current, List.getElem?_eq_getElem inside.within, Option.getD_some]

/-- A cursor that is not at the end has a lexeme behind its own. -/
theorem Inside.next_within (inside : cursor.Inside) (more : cursor.current.tag ≠ .finish) :
    cursor.position + 1 < cursor.lexemes.length := by
  -- At the last place it would stand at the end.
  by_contra last
  have place : cursor.position = cursor.lexemes.length - 1 := by
    have := inside.within
    omega
  have final := inside.ends
  rw [List.getLast?_eq_getElem?, ← place, inside.current_eq] at final
  exact more (Option.some.inj final)

/-- A cursor stays where it is or goes on to the next lexeme, and it does not go beyond the end. -/
theorem move_cases (cursor : LexemeCursor) (step : Move) :
    cursor.move step = cursor ∨
      cursor.current.tag ≠ .finish ∧
        cursor.move step = { cursor with position := cursor.position + 1 } := by
  have advanced : cursor.advance.2 = cursor ∨
      cursor.current.tag ≠ .finish ∧
        cursor.advance.2 = { cursor with position := cursor.position + 1 } := by
    by_cases final : cursor.current.tag = .finish
    · exact .inl (if_pos final)
    · exact .inr ⟨final, if_neg final⟩
  cases step with
  | advance => exact advanced
  | eat tag =>
    -- Where the kind is not the one asked for, nothing is taken.
    by_cases own : cursor.current.tag = tag
    · rwa [move, eat, if_pos own]
    · exact .inl (by rw [move, eat, if_neg own])

/-- A move keeps the lexemes, and a cursor that stands at one of them stands at one behind it. -/
theorem Inside.move (inside : cursor.Inside) (step : Move) :
    (cursor.move step).lexemes = cursor.lexemes ∧ (cursor.move step).Inside := by
  -- Either nothing is moved or there is a lexeme to move to.
  rcases cursor.move_cases step with stays | ⟨more, moves⟩
  · rw [stays]
    exact ⟨rfl, inside⟩
  · rw [moves]
    exact ⟨rfl, inside.next_within more, inside.ends⟩

/-- However a cursor moves, it keeps its lexemes and stands at one of them. -/
theorem Inside.run (inside : cursor.Inside) (moves : List Move) :
    (cursor.run moves).lexemes = cursor.lexemes ∧ (cursor.run moves).Inside := by
  -- Each move leaves a cursor that can be moved again.
  induction moves generalizing cursor with
  | nil => exact ⟨rfl, inside⟩
  | cons step rest ih =>
    obtain ⟨kept, behind⟩ := inside.move step
    obtain ⟨same, stays⟩ := ih behind
    exact ⟨same.trans kept, stays⟩

/-- A cursor advances over lexemes one by one, up to the end. -/
theorem ahead_run_advance {front behind : List Lexeme} (split : cursor.ahead = front ++ behind)
    (more : ∀ lexeme ∈ front, lexeme.tag ≠ .finish) :
    (cursor.run (front.map fun _ => .advance)).ahead = behind := by
  induction front generalizing cursor with
  | nil => exact split
  | cons lexeme rest ih =>
    -- The first lexeme ahead is the one at the cursor.
    have here : cursor.current = lexeme := by
      have first := congrArg (·[0]?) split
      simp only [ahead, List.getElem?_drop, Nat.add_zero, List.cons_append,
        List.getElem?_cons_zero] at first
      rw [current, first, Option.getD_some]
    have moved : cursor.advance.2 = { cursor with position := cursor.position + 1 } := by
      simp only [advance, here, if_neg (more lexeme (by simp))]
    have onward : cursor.advance.2.ahead = rest ++ behind := by
      rw [moved]
      show cursor.lexemes.drop (cursor.position + 1) = rest ++ behind
      rw [← List.tail_drop]
      exact congrArg List.tail split
    exact ih onward fun other member => more other (by simp [member])

/-- The cursor at the first lexeme of a text stands at a lexeme, be it the end. -/
theorem inside_ofText {source : String} (short : byteLength source.toList ≤ Span.limit) :
    (ofText source).Inside := by
  -- Behind all lexemes stands the end, so there is one lexeme at least.
  obtain ⟨front, split, _⟩ := (Lexeme.stand_lexemes short).ends
  have lexemes : (ofText source).lexemes = front ++ [_] := split
  refine ⟨?_, ?_⟩
  · show 0 < (ofText source).lexemes.length
    simp [lexemes]
  · simp [lexemes]

end LexemeCursor

/-- What reading leaves behind a pattern is what a cursor has ahead of it after some moves. -/
theorem LexemeCursor.exists_moves_of_read {options : PatternOptions} {source : String}
    {behind : List Lexeme} {pattern : Pattern} (short : byteLength source.toList ≤ Span.limit)
    (done : Pattern.read options source (.finish source) (Lexeme.ofText source) =
      .ok (pattern, behind)) :
    ∃ moves, ((ofText source).run moves).ahead = behind ++ [.finish source] := by
  -- The cursor advances over the lexemes that were read.
  obtain ⟨front, split, _⟩ :=
    Pattern.exists_front_of_read (fun _ => Lexeme.inClass_of_mem) done
  have lexemes : (ofText source).lexemes = front ++ (behind ++ [.finish source]) := by
    rw [← List.append_assoc, ← split]
    exact Lexeme.lexemes_ofText short
  refine ⟨_, ahead_run_advance lexemes ?_⟩
  -- Only the last of all lexemes is the end, and that one is left.
  intro lexeme member
  obtain ⟨inner, whole, others⟩ := (Lexeme.stand_lexemes short).ends
  rw [Lexeme.lexemes_ofText short, Lexeme.finish_eq short, split] at whole
  exact others lexeme (List.append_cancel_right whole ▸ List.mem_append_left _ member)

/--
The tokens of a text tile it, and each has the place that its characters have in the text.

They are read from bytes, and reading the characters gives the same tokens. A cursor over those that
are no blanks stands at one of them wherever it moves, so that nothing ever stands in for a missing
one. What reading leaves behind a pattern is ahead of such a cursor.
-/
theorem tokens_tile_text {source : String} (short : byteLength source.toList ≤ Span.limit) :
    RawToken.Tile source (RawToken.tokenize source) ∧
      RawToken.tokenize source = (Token.tokenize source).map Token.raw ∧
      Lexeme.Stand source (LexemeCursor.ofText source).lexemes ∧
      Lexeme.tokens (LexemeCursor.ofText source).lexemes = solid (Token.tokenize source) ∧
      (LexemeCursor.ofText source).lexemes = Lexeme.ofText source ++ [.finish source] ∧
      (∀ moves,
        let cursor := (LexemeCursor.ofText source).run moves
        cursor.lexemes = (LexemeCursor.ofText source).lexemes ∧
          cursor.lexemes[cursor.position]? = some cursor.current) ∧
      ∀ options pattern behind,
        Pattern.read options source (.finish source) (Lexeme.ofText source) =
          .ok (pattern, behind) →
        ∃ moves,
          ((LexemeCursor.ofText source).run moves).ahead = behind ++ [.finish source] := by
  -- Bytes are read as characters are, and a cursor stays inside from move to move.
  refine ⟨RawToken.tile_tokenize short, RawToken.tokenize_eq source, Lexeme.stand_lexemes short,
    ?tokens, Lexeme.lexemes_ofText short, ?stays,
    fun _ _ _ => LexemeCursor.exists_moves_of_read short⟩
  case tokens => rw [Lexeme.lexemes_eq_placed short, Lexeme.tokens_placed]
  case stays =>
    intro moves
    obtain ⟨same, stays⟩ := (LexemeCursor.inside_ofText short).run moves
    exact ⟨same, stays.current_eq⟩

/-- A quotation that is not closed ends with the text, although a backslash stands at its end. -/
theorem tokens_tile_text_of_unterminated :
    let source := "_ 'é\\"
    let quotation : Lexeme := ⟨.unterminated, "'é\\", ⟨2, 6⟩⟩
    byteLength source.toList ≤ Span.limit ∧
      RawToken.tokenize source =
        [⟨.underscore, 1⟩, ⟨.whitespace, 1⟩, ⟨.unterminated, 4⟩, ⟨.finish, 0⟩] ∧
      RawToken.Tile source (RawToken.tokenize source) ∧
      Lexeme.Stand source (LexemeCursor.ofText source).lexemes ∧
      Pattern.read {} source (.finish source) (Lexeme.ofText source) =
        .ok (.wildcard, [quotation]) ∧
      ∃ moves, ((LexemeCursor.ofText source).run moves).ahead =
        [quotation, ⟨.finish, "", ⟨6, 6⟩⟩] := by
  intro source quotation
  have short : byteLength source.toList ≤ Span.limit := by decide
  have done : Pattern.read {} source (.finish source) (Lexeme.ofText source) =
      .ok (.wildcard, [quotation]) := by cbv
  have final : Lexeme.finish source = ⟨.finish, "", ⟨6, 6⟩⟩ := by cbv
  obtain ⟨tile, same, stand, _, _, _, taken⟩ := tokens_tile_text short
  have tokens : (Token.tokenize source).map Token.raw =
      [⟨.underscore, 1⟩, ⟨.whitespace, 1⟩, ⟨.unterminated, 4⟩, ⟨.finish, 0⟩] := by cbv
  obtain ⟨moves, ahead⟩ := taken {} _ _ done
  rw [final] at ahead
  exact ⟨short, same.trans tokens, tile, stand, done, moves, ahead⟩

end Motif
