import Motif.Proofs.Pattern.Reading
import Motif.Proofs.Tiling

/-!
A pattern is read from the lexemes that write it, whatever stands behind them.

So the text up to what follows a pattern is read as that pattern.
-/

namespace Motif

open Token (joined solid)

namespace Pattern

variable {options : PatternOptions} {source : String} {finish : Lexeme}
  {lexemes behind : List Lexeme} {pattern : Pattern}

/-- A list is read from the lexemes up to its closing bracket, wherever the text ends. -/
theorem exists_front_of_readList (own : ∀ lexeme ∈ lexemes, lexeme.token.InClass)
    (done : readList finish lexemes = .ok (pattern, behind)) :
    ∃ front, lexemes = front ++ behind ∧ ∀ other, readList other front = .ok (pattern, []) := by
  -- The bracket in front was taken before, and any will do in its place.
  have opens : (⟨.leftBracket, "", .origin⟩ : Lexeme).tag = .leftBracket := rfl
  obtain ⟨front, slots, rfl, rfl, form, fresh⟩ := listForm_of_readList opens own done
  exact ⟨front, rfl, fun other => readList_of_listForm other form rfl fresh⟩

/--
A pattern is read from lexemes in front, and from these alone it is read as well.

Only a type tag looks at the text, which may be any that has the same slices.
-/
theorem exists_front_of_read (own : ∀ lexeme ∈ lexemes, lexeme.token.InClass)
    (done : read options source finish lexemes = .ok (pattern, behind)) :
    ∃ front, lexemes = front ++ behind ∧ ∀ other text,
      (∀ first ∈ front, ∀ last ∈ front,
        (first.span.cover last.span).slice text = (first.span.cover last.span).slice source) →
      read options text other front = .ok (pattern, []) := by
  cases lexemes with
  | nil => cases done
  | cons first rest =>
    -- The first lexeme is taken in any case, and it selects the reader of the others.
    simp only [read] at done
    cases tag : first.tag <;> simp only [tag] at done
    case underscore =>
      cases done
      exact ⟨[first], rfl, fun _ _ _ => by simp [read, tag]⟩
    case leftParen =>
      obtain ⟨⟨parts, after⟩, found, same⟩ := map_eq_ok_iff.mp done
      cases same
      obtain ⟨front, rfl, some, form, fresh⟩ := ConsPattern.read_eq_ok_iff.mp found
      refine ⟨first :: front, rfl, fun other _ _ => ?_⟩
      have alone : ConsPattern.read other [] [] front = .ok (parts, []) :=
        ConsPattern.read_eq_ok_iff.mpr ⟨front, by simp, some, form, fresh⟩
      simp [read, tag, alone, Except.map]
    case leftBracket =>
      obtain ⟨front, rfl, alone⟩ :=
        exists_front_of_readList (List.forall_mem_cons.mp own).2 done
      exact ⟨first :: front, rfl, fun other _ _ => by simp [read, tag, alone other]⟩
    case identifier =>
      split at done
      · cases done
      · rename_i last after path
        obtain ⟨named, found, same⟩ := map_eq_ok_iff.mp done
        cases same
        obtain ⟨front, rfl, final, segments, form⟩ := path_of_readPath tag path
        refine ⟨first :: front, rfl, fun other text slices => ?_⟩
        obtain ⟨ending, alone, last'⟩ := readPath_of_path other form first front rfl
        obtain rfl : ending = last := Option.some.inj (last'.symm.trans final)
        -- The path keeps its ends, so it is named by the same slice.
        have slice := slices first (by simp) ending (List.mem_of_getLast? final)
        have tagged : ofPath options text first ending = .ok pattern := by
          rw [ofPath_eq_ok_iff, slice]
          exact ofPath_eq_ok_iff.mp found
        simp [read, tag, alone, tagged, Except.map]
    case quotation | integer | float | unterminated =>
      obtain ⟨value, written, same⟩ := map_eq_ok_iff.mp done
      cases same
      exact ⟨[first], rfl, fun _ _ _ => by simp [read, tag, written, Except.map]⟩
    -- No other lexeme starts a pattern.
    all_goals cases done

end Pattern

namespace Lexeme

variable {source : String} {front behind : List Lexeme} {extra : Lexeme}

/-- A text that is cut before one of its lexemes has the lexemes in front of that one. -/
theorem exists_cut (short : byteLength source.toList ≤ Span.limit)
    (split : ofText source = front ++ extra :: behind) :
    ∃ before after, source.toList = before ++ after ∧ byteLength before = extra.span.start ∧
      ofText (String.ofList before) = front := by
  have tokens := (tokens_ofText source).symm
  rw [split, tokens_append, tokens_cons] at tokens
  obtain ⟨taken, left, whole, own, following⟩ := Token.exists_of_solid_eq_append tokens
  obtain ⟨blanks, rest, rfl, none, -⟩ := Token.exists_of_solid_eq_cons following
  have other : extra.tag ≠ .whitespace := by
    have member : extra.token ∈ solid (blanks ++ extra.token :: rest) := by simp [following]
    exact of_decide_eq_true (List.mem_filter.mp member).2
  -- The tokens up to the lexeme are those of the text that is cut there.
  obtain ⟨text, settled⟩ := Token.ofChars_eq_iff.mp whole
  rw [← List.append_assoc] at whole text settled
  have cut : Token.ofChars (joined (taken ++ blanks)) = taken ++ blanks := by
    rw [Token.settled_append] at settled
    have inside : Token.Settled ([] ++ joined (extra.token :: rest)) (taken ++ blanks) := by
      simpa using settled.1
    exact Token.ofChars_eq_iff.mpr ⟨rfl, inside.of_append⟩
  rw [Token.joined_append] at text
  have bytes := congrArg byteLength text
  simp only [byteLength_append] at bytes
  have fits : 0 + byteLength (joined (taken ++ blanks)) ≤ Span.limit := by omega
  -- Both parts have their places, and the lexeme starts where the first part ends.
  have lexemes : front ++ extra :: behind = placed 0 (taken ++ blanks) ++
      placed (0 + byteLength (joined (taken ++ blanks))) (extra.token :: rest) := by
    rw [← split, ← placed_append _ fits, ← whole]
    rfl
  have count : front.length = (placed 0 (taken ++ blanks)).length := by
    have both := tokens_placed 0 (taken ++ blanks)
    rw [Token.solid_append, own, none, List.append_nil] at both
    simpa [Lexeme.tokens] using (congrArg List.length both).symm
  obtain ⟨same, starts⟩ := List.append_inj lexemes count
  refine ⟨joined (taken ++ blanks), joined (extra.token :: rest), text.symm, ?_, ?_⟩
  · have kept : decide (extra.token.tag ≠ .whitespace) = true := decide_eq_true other
    simp only [placed, locate, List.filter_cons, kept, if_true] at starts
    rw [(List.cons.inj starts).1]
    simp [Span.ofLength]
  · rw [same, ofText, String.toList_ofList, cut]
    rfl

/-- Lexemes of a short text end within it. -/
theorem stop_le_of_mem (short : byteLength source.toList ≤ Span.limit) {lexeme : Lexeme}
    (member : lexeme ∈ ofText source) : lexeme.span.stop ≤ byteLength source.toList := by
  have cut := slice_of_mem_locate short (Token.joined_ofChars source.toList)
    (List.mem_of_mem_filter member)
  obtain ⟨before, after, text, -, stop⟩ := sliceBytes?_eq_some_iff.mp cut
  rw [text, stop]
  simp only [byteLength_append]
  omega

end Lexeme

/-- The text before what is left behind a pattern is read as that pattern. -/
theorem Pattern.parseWith_front {options : PatternOptions} {source : String} {pattern : Pattern}
    {extra : Lexeme} {behind : List Lexeme} (short : byteLength source.toList ≤ Span.limit)
    (done : read options source (.finish source) (Lexeme.ofText source) =
      .ok (pattern, extra :: behind)) :
    parseWith options (Span.slice ⟨0, extra.span.start⟩ source) = .ok pattern := by
  obtain ⟨front, split, alone⟩ := exists_front_of_read (fun _ => Lexeme.inClass_of_mem) done
  obtain ⟨before, after, text, start, lexemes⟩ := Lexeme.exists_cut short split
  have cut : Span.slice ⟨0, extra.span.start⟩ source = String.ofList before := by
    have slice : Span.slice ⟨byteLength [], byteLength [] + byteLength before⟩ source =
      String.ofList before := Span.slice_of_append text
    simpa [start] using slice
  rw [cut, parseWith_eq_ok_iff_readWhole, readWhole_eq_ok_iff_read, lexemes]
  refine alone _ _ fun first _ last member => ?_
  -- A slice that ends within the front is not changed by cutting the text there.
  have within : last.span.stop ≤ byteLength before := by
    rw [← lexemes] at member
    rw [text, byteLength_append] at short
    simpa using Lexeme.stop_le_of_mem (by rw [String.toList_ofList]; omega) member
  have same : sliceBytes? first.span.start last.span.stop source.toList =
      sliceBytes? first.span.start last.span.stop before := by
    rw [text, sliceBytes?_append_of_le within]
  simp only [Span.slice, Span.cover, String.toList_ofList, same]

end Motif
