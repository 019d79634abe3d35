import Motif.Literal
import Motif.Proofs.Text.ByteCursor
import Motif.Proofs.Tiling

/-!
What a quotation is does not depend on who looks at it.

A cursor over bytes, the tokens of a text and the reader of a quotation agree on where it ends, and
a quotation that was written for a text is read as that text again.
-/

namespace Motif

open Token (joined tokenize)

variable {source : String} {front ahead : List Char} {mark : Char}

namespace ByteCursor

/-- A cursor that looks for the closing quote in the part of a text that lies ahead. -/
structure FindsQuote (source : String) (front ahead : List Char) (mark : Char) : Prop where
  /-- It stops behind the first quote that no backslash escapes. -/
  closed : ∀ body after, ahead = body ++ mark :: after → QuotedBody mark body →
    ((ofText source).advanceBy (byteLength front)).skipQuoted mark.toUInt8 =
      (true, (ofText source).advanceBy (byteLength front + byteLength body + 1))
  /-- It fails, at the end of the text, exactly where there is no such quote. -/
  unclosed : ((ofText source).advanceBy (byteLength front)).skipQuoted mark.toUInt8 =
      (false, ⟨source.utf8ByteSize, []⟩) ↔
    ∀ body after, ahead = body ++ mark :: after → ¬ QuotedBody mark body

/-- The quote that is found by bytes is the one that is found by characters. -/
theorem findsQuote (split : source.toList = front ++ ahead) (quote : mark = '"' ∨ mark = '\'') :
    FindsQuote source front ahead mark := by
  -- The search among characters decides, and the bytes of what it passes give the place.
  have narrow := utf8Size_of_quote quote
  have single := ne_backslash_of_quote quote
  have closed (body after) (same : ahead = body ++ mark :: after) (inside : QuotedBody mark body) :
      ((ofText source).advanceBy (byteLength front)).skipQuoted mark.toUInt8 =
        (true, (ofText source).advanceBy (byteLength front + byteLength body + 1)) := by
    have behind : source.toList = (front ++ body ++ [mark]) ++ after := by simp [split, same]
    have place := advanceBy_ofText behind
    simp only [byteLength_append, byteLength_cons, byteLength_nil, narrow] at place
    rw [place, advanceBy_ofText split, skipQuoted_encoded narrow single,
      (closeQuotation?_eq_some_iff single).mpr ⟨same, inside⟩]
    rfl
  refine ⟨closed, ?_, ?_⟩
  · intro failed body after same inside
    rw [closed body after same inside] at failed
    cases failed
  · intro none
    rw [advanceBy_ofText split, skipQuoted_encoded narrow single,
      (closeQuotation?_eq_none_iff single).mpr none, ← byteLength_append, ← split,
      byteLength_toList]

end ByteCursor

/-- A lexeme that is a quotation of a body in the text that it stands in. -/
structure Lexeme.Quotes (source : String) (lexeme : Lexeme) (mark : Char) (body : List Char) :
    Prop where
  slice : lexeme.span.slice source = lexeme.text
  quote : mark = '"' ∨ mark = '\''
  chars : lexeme.text.toList = mark :: (body ++ [mark])
  /-- No quote of that kind is bare in the body, and no backslash stands alone in it. -/
  inside : QuotedBody mark body
  /-- A cursor behind the opening quote finds the closing one at the end of the lexeme. -/
  closed : ((ByteCursor.ofText source).advanceBy (lexeme.span.start + 1)).skipQuoted mark.toUInt8 =
    (true, (ByteCursor.ofText source).advanceBy lexeme.span.stop)
  /-- The range without the quotes fits the lexeme. -/
  range : sliceBytes? 1 (byteLength lexeme.text.toList - 1) lexeme.text.toList = some body
  /-- The lexeme is read as its body with the second character of every pair in its place. -/
  reads : Unescapes body (unquote lexeme.text.toList)

/-- Every lexeme with the tag of a quotation quotes some body. -/
theorem Lexeme.exists_quotes (short : byteLength source.toList ≤ Span.limit) {lexeme : Lexeme}
    (member : lexeme ∈ ofText source) (tag : lexeme.tag = .quotation) :
    ∃ mark body, lexeme.Quotes source mark body := by
  have text := Token.joined_ofChars source.toList
  have located := List.mem_of_mem_filter member
  obtain ⟨before, token, after, tokens, rfl⟩ :=
    exists_split_of_mem_locate (by rw [text]; omega) located
  have own : token.InClass := (Token.settled_ofChars source.toList).inClass token (by simp [tokens])
  dsimp only at tag
  simp only [Token.InClass, tag] at own
  -- The token of the lexeme has a body between two quotes, from which all else follows.
  obtain ⟨mark, body, quote, inside, chars⟩ := own
  have narrow := utf8Size_of_quote quote
  have split : source.toList = joined before ++ (token.chars ++ joined after) := by
    rw [← text, tokens, Token.joined_append, Token.joined_cons]
  have whole : token.text.toList = mark :: (body ++ [mark]) := by
    rw [Token.text, String.toList_ofList, chars]
  refine ⟨mark, body, ?slice, quote, whole, inside, ?closed, ?range, ?reads⟩
  case slice => exact slice_of_mem short member
  case closed =>
    -- Behind the opening quote lie the body, the closing quote and the tokens that follow.
    have opened : source.toList = (joined before ++ [mark]) ++ (body ++ mark :: joined after) := by
      simp [split, chars]
    have found := (ByteCursor.findsQuote opened quote).closed body _ rfl inside
    simpa [chars, narrow, Nat.add_assoc] using found
  case range => rw [whole, sliceBytes?_quotation narrow]
  case reads =>
    rw [whole, unquote_of_body narrow]
    exact inside.unescapes

/-- What is written for a text is one token, whatever follows it. -/
theorem tokenize_canonicalText (text behind : String) :
    tokenize ((Literal.quoted text).canonicalText ++ behind) =
      ⟨.quotation, quote text.toList⟩ :: tokenize behind := by
  have own : Token.InClass ⟨.quotation, quote text.toList⟩ :=
    ⟨'"', escapeQuotes text.toList, .inl rfl, quotedBody_escapeQuotes _, rfl⟩
  have chars : ((Literal.quoted text).canonicalText ++ behind).toList =
      quote text.toList ++ behind.toList := by
    simp [Literal.canonicalText, Literal.chars, Literal.quoted]
  rw [tokenize, chars, Token.ofChars_append own trivial]
  rfl

/--
Bytes and characters agree on what a quotation is.

From any place between two characters the search by bytes finds the quote that the characters name.
The quotations among the tokens of a text are read by their bodies. What is written for a text is a
quotation at the front of anything, and it is read as that text.
-/
theorem quotations_are_read_as_written :
    (∀ (source : String) (front ahead : List Char) (mark : Char), source.toList = front ++ ahead →
      (mark = '"' ∨ mark = '\'') → ByteCursor.FindsQuote source front ahead mark) ∧
    (∀ source : String, byteLength source.toList ≤ Span.limit →
      ∀ lexeme ∈ Lexeme.ofText source, lexeme.tag = .quotation →
        ∃ mark body, lexeme.Quotes source mark body) ∧
    ∀ text behind : String,
      let written := (Literal.quoted text).canonicalText
      written.utf8ByteSize ≤ Span.limit →
        ∃ token rest, tokenize (written ++ behind) = token :: rest ∧ token.tag = .quotation ∧
          token.text = written ∧ token.byteLength = written.utf8ByteSize ∧
          String.ofList (unquote token.chars) = text := by
  refine ⟨?ends, ?bodies, ?written⟩
  case ends =>
    intro source front ahead mark split quote
    exact ByteCursor.findsQuote split quote
  case bodies =>
    intro source short lexeme member tag
    exact Lexeme.exists_quotes short member tag
  case written =>
    intro text behind written short
    have chars : written.toList = quote text.toList := String.toList_ofList
    refine ⟨_, _, tokenize_canonicalText text behind, rfl, rfl, ?_, ?_⟩
    · rw [Token.byteLength, ← chars, byteLength_toList]
      exact Nat.min_eq_left short
    · rw [unquote_quote, String.ofList_toList]

/-- An escaped quote, a lone backslash, an escape of two bytes, and a text of special characters. -/
theorem quotations_are_read_as_written_of_escapes :
    let closed := "é\\'b'c"
    let unclosed := "\"b\\"
    let list := "['a\\é\"']"
    let lexeme : Lexeme := ⟨.quotation, "'a\\é\"'", ⟨1, 8⟩⟩
    let written := (Literal.quoted "\"é\\").canonicalText
    closed.toList = ['é'] ++ "\\'b'c".toList ∧
      ((ByteCursor.ofText closed).advanceBy 2).skipQuoted 0x27 =
        (true, (ByteCursor.ofText closed).advanceBy 6) ∧
      unclosed.toList = ['"'] ++ "b\\".toList ∧
      ((ByteCursor.ofText unclosed).advanceBy 1).skipQuoted 0x22 = (false, ⟨3, []⟩) ∧
      byteLength list.toList ≤ Span.limit ∧ lexeme ∈ Lexeme.ofText list ∧
      (∃ mark body, lexeme.Quotes list mark body) ∧ written.utf8ByteSize ≤ Span.limit ∧
      ∃ token rest, tokenize (written ++ "'x") = token :: rest ∧
        String.ofList (unquote token.chars) = "\"é\\" := by
  intro closed unclosed list lexeme written
  have escaped : closed.toList = ['é'] ++ "\\'b'c".toList := by decide
  have lone : unclosed.toList = ['"'] ++ "b\\".toList := by decide
  have still : closeQuotation? '"' "b\\".toList = none := by decide
  have short : byteLength list.toList ≤ Span.limit := by decide
  have member : lexeme ∈ Lexeme.ofText list := by
    have lexemes : (Lexeme.ofText list)[1]? = some lexeme := by cbv
    exact List.mem_of_getElem? lexemes
  have shortText : written.utf8ByteSize ≤ Span.limit := by decide
  -- The bodies are written out character by character, with a backslash before each escaped one.
  obtain ⟨ends, bodies, texts⟩ := quotations_are_read_as_written
  obtain ⟨token, rest, tokens, -, -, -, read⟩ := texts "\"é\\" "'x" shortText
  refine ⟨escaped, ?_, lone, ?_, short, member, bodies list short lexeme member rfl, shortText,
    token, rest, tokens, read⟩
  · exact (ends _ _ _ '\'' escaped (.inr rfl)).closed "\\'b".toList ['c'] rfl
      (.escape (.plain (by decide) (by decide) .nil))
  · exact (ends _ _ _ '"' lone (.inl rfl)).unclosed.mpr
      ((closeQuotation?_eq_none_iff (by decide)).mp still)

end Motif
