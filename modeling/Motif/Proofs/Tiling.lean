import Motif.LexemeCursor
import Motif.Proofs.Places
import Motif.Proofs.RawToken

/-!
The tokens of a text tile it, and their places cut them out again.

Without the blanks they stand one behind the other, and the end of the text stands behind them.
-/

namespace Motif

open Token (joined solid)

/-- The bytes of a text are counted as the library counts them. -/
theorem byteLength_toList (text : String) : byteLength text.toList = text.utf8ByteSize := by
  -- Both counts add up the bytes of each character.
  have each (chars : List Char) : byteLength chars = String.utf8Len chars := by
    induction chars with
    | nil => rfl
    | cons char rest ih => rw [byteLength_cons, String.utf8Len_cons, ih, Nat.add_comm]
  rw [each, ← String.utf8ByteSize_ofList, String.ofList_toList]

/-- Between two parts of a text there is a boundary of characters. -/
theorem isValid_of_append {text : String} {front back : List Char}
    (split : text.toList = front ++ back) : String.Pos.Raw.IsValid text ⟨byteLength front⟩ := by
  -- The bytes up to there are those of whole characters.
  refine String.Pos.Raw.isValid_iff_exists_append.mpr ⟨.ofList front, .ofList back, ?_, ?_⟩
  · rw [← String.ofList_append, ← split, String.ofList_toList]
  · rw [String.rawEndPos, ← byteLength_toList, String.toList_ofList]

namespace Token

/-- Within reach of a span, the bytes of some tokens are those of the text they cover. -/
theorem sum_byteLength {tokens : List Token}
    (fits : Motif.byteLength (joined tokens) ≤ Span.limit) :
    (tokens.map byteLength).sum = Motif.byteLength (joined tokens) := by
  induction tokens with
  | nil => rfl
  | cons token rest ih =>
    -- A token that is part of a short text keeps its whole length.
    simp only [joined_cons, byteLength_append] at fits
    rw [List.map_cons, List.sum_cons, ih (by omega), joined_cons, byteLength_append, byteLength,
      Nat.min_eq_left (by omega)]

/-- A token with characters of its kind has bytes, even if they are not all counted. -/
theorem InClass.byteLength_pos {token : Token} (own : token.InClass) : 0 < token.byteLength :=
  -- It has characters, and the limit of what is counted is not zero.
  Nat.lt_min.mpr ⟨Motif.byteLength_pos own.chars_ne_nil, by decide⟩

/-- The tokens of a text and the end behind them have the characters of the text. -/
theorem joined_tokenize (source : String) : joined (tokenize source) = source.toList := by
  -- The end adds no characters.
  rw [tokenize, joined_append, joined_ofChars]
  exact List.append_nil _

end Token

namespace RawToken

/-- A text falls into tokens without gap or overlap, with the end behind them. -/
structure Tile (source : String) (tokens : List RawToken) : Prop where
  /-- The end stands behind all other tokens and nowhere else, and it alone has no bytes. -/
  ends : ∃ front, tokens = front ++ [⟨.finish, 0⟩] ∧
    ∀ token ∈ front, token.tag ≠ .finish ∧ 0 < token.length
  /-- All bytes of the text are covered. -/
  covers : (tokens.map length).sum = source.utf8ByteSize
  /-- Every token starts and ends between two characters. -/
  boundary : ∀ count, String.Pos.Raw.IsValid source ⟨((tokens.take count).map length).sum⟩

/-- The bytes of a token are counted alike with and without its characters. -/
theorem map_length_raw (tokens : List Token) :
    (tokens.map Token.raw).map length = tokens.map Token.byteLength :=
  List.map_map

/-- A text that spans can reach is tiled by the tokens of its bytes. -/
theorem tile_tokenize {source : String} (short : byteLength source.toList ≤ Span.limit) :
    Tile source (tokenize source) := by
  -- Bytes are passed as characters are, so every token ends where one of the character reader does.
  have text := Token.joined_tokenize source
  rw [tokenize_eq]
  refine ⟨⟨(Token.ofChars source.toList).map Token.raw, ?last, ?ends⟩, ?covers, ?boundary⟩
  case last =>
    rw [Token.tokenize, List.map_append]
    rfl
  case ends =>
    rw [List.forall_mem_map]
    intro token member
    have own := (Token.settled_ofChars source.toList).inClass token member
    exact ⟨own.tag_ne_finish, own.byteLength_pos⟩
  case covers => rw [map_length_raw, Token.sum_byteLength (by rwa [text]), text, byteLength_toList]
  case boundary =>
    intro count
    -- The tokens in front and those behind them are two parts of the text.
    have split : source.toList = joined ((Token.tokenize source).take count) ++
        joined ((Token.tokenize source).drop count) := by
      rw [← Token.joined_append, List.take_append_drop, text]
    rw [split, byteLength_append] at short
    rw [← List.map_take, map_length_raw, Token.sum_byteLength (by omega)]
    exact isValid_of_append split

end RawToken

/-- Whether one span follows another in a text with nothing but blanks between them. -/
def Span.BlankBetween (source : String) (first second : Span) : Prop :=
  ∃ gap, sliceBytes? first.stop second.start source.toList = some gap ∧
    ∀ char ∈ gap, IsBlank char

namespace Lexeme

/-- Lexemes that stand in a text where their spans say, up to the end. -/
structure Stand (source : String) (lexemes : List Lexeme) : Prop where
  /-- A span covers exactly the characters of its lexeme. -/
  slice : ∀ lexeme ∈ lexemes,
    sliceBytes? lexeme.span.start lexeme.span.stop source.toList = some lexeme.text.toList
  /-- Lexemes stand one behind the other. -/
  ordered : lexemes.Pairwise fun first second =>
    first.span.start < second.span.start ∧ first.span.stop ≤ second.span.start
  /-- Before the first of them and between any two there are only blanks. -/
  gaps : List.IsChain (Span.BlankBetween source) (.origin :: lexemes.map span)
  /-- The end stands at the length of the text, behind lexemes that are no ends. -/
  ends : ∃ front, lexemes = front ++ [⟨.finish, "", ⟨source.utf8ByteSize, source.utf8ByteSize⟩⟩] ∧
    ∀ lexeme ∈ front, lexeme.tag ≠ .finish

variable {source : String} {tokens : List Token}

/-- Every lexeme has its token, and stands behind the text of the tokens in front of that one. -/
theorem exists_split_of_mem_locate {offset : Nat} {lexeme : Lexeme}
    (fits : offset + byteLength (joined tokens) ≤ Span.limit)
    (member : lexeme ∈ locate offset tokens) :
    ∃ front token rest, tokens = front ++ token :: rest ∧
      lexeme = ⟨token.tag, token.text, ⟨offset + byteLength (joined front),
        offset + byteLength (joined front) + byteLength token.chars⟩⟩ := by
  induction tokens generalizing offset with
  | nil => cases member
  | cons token rest ih =>
    simp only [Token.joined_cons, byteLength_append] at fits
    rw [locate_cons rest (by omega)] at member
    rcases List.mem_cons.mp member with rfl | behind
    · exact ⟨[], token, rest, rfl, rfl⟩
    · -- The first token is one more in front of the token that is found behind it.
      obtain ⟨front, own, others, rfl, rfl⟩ := ih (by omega) behind
      refine ⟨token :: front, own, others, rfl, ?_⟩
      simp only [Token.joined_cons, byteLength_append, Nat.add_assoc]

/-- Every lexeme of a text has the characters of its span. -/
theorem slice_of_mem_locate (short : byteLength source.toList ≤ Span.limit)
    (text : joined tokens = source.toList) {lexeme : Lexeme} (member : lexeme ∈ locate 0 tokens) :
    sliceBytes? lexeme.span.start lexeme.span.stop source.toList = some lexeme.text.toList := by
  -- A lexeme has a token, and that stands behind the text of those before it.
  obtain ⟨front, token, rest, rfl, rfl⟩ := exists_split_of_mem_locate (by rw [text]; omega) member
  have split : source.toList = joined front ++ (token.chars ++ joined rest) := by
    rw [← text, Token.joined_append, Token.joined_cons]
  simpa [Token.text] using sliceBytes?_of_append split

/-- Every lexeme but the end has characters, so the next one starts farther on. -/
theorem pairwise_locate {offset : Nat} (fits : offset + byteLength (joined tokens) ≤ Span.limit)
    (filled : ∀ token ∈ tokens, token.InClass) :
    (locate offset (tokens ++ [.finish])).Pairwise fun first second =>
      first.span.start < second.span.start ∧ first.span.stop ≤ second.span.start := by
  induction tokens generalizing offset with
  -- The end is alone then, and there is nothing to compare it with.
  | nil => simp [locate]
  | cons token rest ih =>
    simp only [Token.joined_cons, byteLength_append] at fits
    rw [List.cons_append, locate_cons _ (by omega), List.pairwise_cons]
    refine ⟨?_, ih (by omega) fun other member => filled other (by simp [member])⟩
    intro lexeme member
    -- All others stand behind the characters of this one.
    have behind : offset + byteLength token.chars + byteLength (joined (rest ++ [.finish])) ≤
        Span.limit := by
      simpa [Token.finish, Nat.add_assoc] using fits
    obtain ⟨front, own, others, _, rfl⟩ := exists_split_of_mem_locate behind member
    have some := byteLength_pos (filled token (by simp)).chars_ne_nil
    dsimp only
    omega

/-- Only tokens that were dropped stand between the lexemes, and those are blanks. -/
theorem gaps_placed (before gap : List Char) (previous : Span)
    (short : byteLength source.toList ≤ Span.limit)
    (text : source.toList = before ++ (gap ++ joined tokens))
    (stop : previous.stop = byteLength before) (blank : ∀ char ∈ gap, IsBlank char)
    (blanks : ∀ token ∈ tokens, token.tag = .whitespace →
      ∀ char ∈ token.chars, IsBlank char) :
    List.IsChain (Span.BlankBetween source)
      (previous :: (placed (byteLength (before ++ gap)) tokens).map span) := by
  -- Behind the previous lexeme there is a gap that may still grow.
  induction tokens generalizing before gap previous with
  | nil => exact .singleton _
  | cons token rest ih =>
    have within := text ▸ short
    simp only [Token.joined_cons, byteLength_append] at within
    have others : ∀ other ∈ rest, other.tag = .whitespace →
        ∀ char ∈ other.chars, IsBlank char :=
      fun other member => blanks other (by simp [member])
    rw [placed, locate_cons rest (by rw [byteLength_append]; omega), ← byteLength_append]
    by_cases tag : token.tag = .whitespace
    · -- The blanks of this token add to the gap, which the next lexeme may end.
      rw [List.filter_cons_of_neg (by simp [tag]), List.append_assoc]
      refine ih before _ previous (by simpa using text) stop ?_ others
      intro char member
      rcases List.mem_append.mp member with front | back
      · exact blank char front
      · exact blanks token (by simp) tag char back
    · -- The gap ends here, and behind this lexeme a new one begins.
      rw [List.filter_cons_of_pos (by simp [tag]), List.map_cons, List.isChain_cons_cons]
      refine ⟨⟨gap, ?_, blank⟩, ?_⟩
      · rw [stop, byteLength_append]
        exact sliceBytes?_of_append text
      · have chain := ih (before ++ gap ++ token.chars) []
          ⟨byteLength (before ++ gap), byteLength (before ++ gap ++ token.chars)⟩
          (by simpa using text) rfl (by simp) others
        rwa [List.append_nil] at chain

/-- In a text that spans can reach, the end stands at its length. -/
theorem finish_eq (short : byteLength source.toList ≤ Span.limit) :
    finish source = ⟨.finish, "", ⟨source.utf8ByteSize, source.utf8ByteSize⟩⟩ := by
  -- The length of the text is not cut off.
  rw [finish, Nat.min_eq_left short, Span.ofLength, Nat.add_zero, Nat.min_eq_left short,
    byteLength_toList]

/-- The tokens of a text with the end give the lexemes of the text with the end. -/
theorem placed_tokenize (short : byteLength source.toList ≤ Span.limit) :
    placed 0 (Token.tokenize source) = ofText source ++ [finish source] := by
  have text := Token.joined_ofChars source.toList
  rw [Token.tokenize, placed_append _ (by rw [text]; omega), text, finish, Nat.min_eq_left short,
    Nat.zero_add]
  rfl

/-- Cutting texts out by the places of tokens gives the characters of those tokens. -/
theorem cut_raw (short : byteLength source.toList ≤ Span.limit) {front : List Char}
    (text : source.toList = front ++ joined tokens) :
    cut source (byteLength front) (tokens.map Token.raw) = locate (byteLength front) tokens := by
  induction tokens generalizing front with
  | nil => rfl
  | cons token rest ih =>
    have within := text ▸ short
    simp only [Token.joined_cons, byteLength_append] at within
    have span : Span.ofLength (byteLength front) token.byteLength =
        ⟨byteLength front, byteLength (front ++ token.chars)⟩ := by
      rw [Span.ofLength, Token.byteLength, Nat.min_eq_left (by omega), Nat.min_eq_left (by omega),
        byteLength_append]
    have own : Span.slice ⟨byteLength front, byteLength (front ++ token.chars)⟩ source =
        token.text := by
      rw [Span.slice, byteLength_append, sliceBytes?_of_append text, Option.getD_some, Token.text]
    simp only [List.map_cons, cut, locate, Token.raw, span, own]
    rw [← ih (by simpa using text)]
    rfl

/-- The lexemes that are cut out by the bytes of a text are those of its characters. -/
theorem lexemes_eq_placed (short : byteLength source.toList ≤ Span.limit) :
    (LexemeCursor.ofText source).lexemes = placed 0 (Token.tokenize source) := by
  have text : source.toList = [] ++ joined (Token.tokenize source) :=
    (Token.joined_tokenize source).symm
  have same := cut_raw short text
  rw [byteLength_nil, ← RawToken.tokenize_eq] at same
  rw [LexemeCursor.ofText, same]
  rfl

/-- A cursor has the lexemes of its text, and the end behind them. -/
theorem lexemes_ofText (short : byteLength source.toList ≤ Span.limit) :
    (LexemeCursor.ofText source).lexemes = ofText source ++ [finish source] :=
  (lexemes_eq_placed short).trans (placed_tokenize short)

/-- The span of a lexeme cuts its text out. -/
theorem slice_of_mem (short : byteLength source.toList ≤ Span.limit)
    {lexeme : Lexeme} (member : lexeme ∈ ofText source) :
    lexeme.span.slice source = lexeme.text := by
  have cut := slice_of_mem_locate short (Token.joined_ofChars source.toList)
    (List.mem_of_mem_filter member)
  rw [Span.slice, cut, Option.getD_some, String.ofList_toList]

/-- The lexemes of a text stand in it, and so does the end. -/
theorem stand_lexemes (short : byteLength source.toList ≤ Span.limit) :
    Stand source (LexemeCursor.ofText source).lexemes := by
  rw [lexemes_eq_placed short]
  have own := (Token.settled_ofChars source.toList).inClass
  have text := Token.joined_tokenize source
  refine ⟨?slice, ?ordered, ?gaps, ⟨ofText source, ?finish, ?others⟩⟩
  case slice =>
    intro lexeme member
    exact slice_of_mem_locate short text (List.mem_of_mem_filter member)
  case ordered =>
    exact (pairwise_locate (by rw [Token.joined_ofChars]; omega) own).filter _
  case gaps =>
    -- The text starts with a gap of no characters, and only blanks may be dropped.
    refine gaps_placed [] [] .origin short text.symm rfl (by simp) ?_
    intro token member tag
    rcases List.mem_append.mp member with front | final
    · have own := own token front
      simp only [Token.InClass, tag] at own
      exact own.2
    · obtain rfl := List.mem_singleton.mp final
      cases tag
  case finish => rw [placed_tokenize short, finish_eq short]
  case others =>
    intro lexeme member
    exact (inClass_of_mem member).tag_ne_finish

end Lexeme

end Motif
