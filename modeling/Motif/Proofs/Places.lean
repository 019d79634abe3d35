import Motif.Lexeme
import Motif.Proofs.Pattern.Grammar

/-! Where the lexemes of a text stand: the spans cut out what the tokens cover. -/

namespace Motif

open Token (joined solid)

namespace Lexeme

/-- A lexeme without its place. -/
def token (lexeme : Lexeme) : Token := ⟨lexeme.tag, lexeme.text.toList⟩

/-- A token has the kind of its lexeme. -/
@[simp] theorem token_tag (lexeme : Lexeme) : lexeme.token.tag = lexeme.tag := rfl

/-- A token has the text of its lexeme. -/
@[simp] theorem token_text (lexeme : Lexeme) : lexeme.token.text = lexeme.text :=
  String.ofList_toList

/-- A token has the characters of its lexeme. -/
@[simp] theorem token_chars (lexeme : Lexeme) : lexeme.token.chars = lexeme.text.toList := rfl

/-- Lexemes without their places. -/
def tokens (lexemes : List Lexeme) : List Token := lexemes.map token

/-- No lexemes have no tokens. -/
@[simp] theorem tokens_nil : tokens [] = [] := rfl

/-- The first token is that of the first lexeme. -/
@[simp] theorem tokens_cons (lexeme : Lexeme) (rest : List Lexeme) :
    tokens (lexeme :: rest) = lexeme.token :: tokens rest := rfl

/-- The tokens of two parts are those of the first and then those of the second. -/
@[simp] theorem tokens_append (front back : List Lexeme) :
    tokens (front ++ back) = tokens front ++ tokens back := by
  -- Places are dropped lexeme by lexeme.
  simp [tokens]

/-- Lexemes with a first token have a first lexeme. -/
theorem exists_of_tokens_eq_cons {lexemes : List Lexeme} {first : Token} {rest : List Token}
    (same : tokens lexemes = first :: rest) :
    ∃ lexeme others, lexemes = lexeme :: others ∧ lexeme.token = first ∧ tokens others = rest :=
  List.map_eq_cons_iff.mp same

/-- A lone token comes from a lone lexeme. -/
theorem exists_of_tokens_eq_singleton {lexemes : List Lexeme} {only : Token}
    (same : tokens lexemes = [only]) : ∃ lexeme, lexemes = [lexeme] ∧ lexeme.token = only :=
  List.map_eq_singleton_iff.mp same

/-- Lexemes whose tokens fall in two parts do so themselves. -/
theorem exists_of_tokens_eq_append {lexemes : List Lexeme} {front back : List Token}
    (same : tokens lexemes = front ++ back) :
    ∃ before after, lexemes = before ++ after ∧ tokens before = front ∧ tokens after = back :=
  List.map_eq_append_iff.mp same

/-- Giving tokens their places keeps the tokens. -/
theorem tokens_locate (offset : Nat) (tokens : List Token) :
    Lexeme.tokens (locate offset tokens) = tokens := by
  -- Only places are added, so dropping them again leaves the tokens as they were.
  induction tokens generalizing offset with
  | nil => rfl
  | cons token rest ih => simp [locate, ih, Lexeme.token]

/-- The lexemes of some tokens that start at an offset, without the blanks. -/
def placed (offset : Nat) (tokens : List Token) : List Lexeme :=
  (locate offset tokens).filter fun lexeme => lexeme.tag ≠ .whitespace

/-- Dropping blanks from lexemes drops them from their tokens. -/
theorem tokens_placed (offset : Nat) (tokens : List Token) :
    Lexeme.tokens (placed offset tokens) = solid tokens := by
  -- The test looks at the tag alone, so it may as well look at the token.
  calc Lexeme.tokens (placed offset tokens)
      = solid (Lexeme.tokens (locate offset tokens)) := by
        unfold placed Lexeme.tokens solid
        rw [List.filter_map]
        rfl
    _ = solid tokens := by rw [tokens_locate]

/-- The tokens of a text's lexemes are those of the text that are not blanks. -/
theorem tokens_ofText (source : String) :
    Lexeme.tokens (ofText source) = solid (Token.ofChars source.toList) :=
  tokens_placed 0 _

/-- The lexemes of a text have the characters of their kind. -/
theorem inClass_of_mem {source : String} {lexeme : Lexeme}
    (member : lexeme ∈ ofText source) :
    lexeme.token.InClass := by
  -- A lexeme is made of a token of the text, and that is of its kind.
  have among : lexeme.token ∈ Token.solid (Token.ofChars source.toList) := by
    rw [← tokens_ofText]
    exact List.mem_map_of_mem member
  exact (Token.settled_ofChars source.toList).inClass _ (List.mem_of_mem_filter among)

/-- Blanks have no place among the lexemes. -/
theorem placed_of_blank {tokens : List Token} (blank : solid tokens = []) (offset : Nat) :
    placed offset tokens = [] :=
  List.map_eq_nil_iff.mp ((tokens_placed offset tokens).trans blank)

/-- Within reach of a span, a token stands at its offset and the others where it ends. -/
theorem locate_cons {offset : Nat} {token : Token} (rest : List Token)
    (fits : offset + byteLength token.chars ≤ Span.limit) :
    locate offset (token :: rest) =
      ⟨token.tag, token.text, ⟨offset, offset + byteLength token.chars⟩⟩ ::
        locate (offset + byteLength token.chars) rest := by
  -- Nothing is cut off, neither from the token's length nor from the place where it ends.
  have stop : (Span.ofLength offset token.byteLength).stop = offset + byteLength token.chars := by
    simp only [Span.ofLength, Token.byteLength]
    omega
  rw [← stop]
  rfl

/-- Within reach of a span, every token stands where the one before it ends. -/
theorem locate_append {offset : Nat} {front : List Token} (back : List Token)
    (fits : offset + byteLength (joined front) ≤ Span.limit) :
    locate offset (front ++ back) =
      locate offset front ++ locate (offset + byteLength (joined front)) back := by
  -- Each token moves the place of the next one by its bytes.
  induction front generalizing offset with
  | nil => rfl
  | cons token rest ih =>
    simp only [Token.joined_cons, byteLength_append] at fits ⊢
    rw [List.cons_append, locate_cons _ (by omega), locate_cons _ (by omega), ih (by omega),
      Nat.add_assoc, List.cons_append]

/-- Lexemes of two parts of a text are those of the first and then those of the second. -/
theorem placed_append {offset : Nat} {front : List Token} (back : List Token)
    (fits : offset + byteLength (joined front) ≤ Span.limit) :
    placed offset (front ++ back) =
      placed offset front ++ placed (offset + byteLength (joined front)) back := by
  -- Dropping blanks does not depend on what stands around them.
  simp [placed, locate_append back fits]

/-- The first lexeme starts where the tokens do. -/
theorem placed_head {tokens : List Token} (offset : Nat)
    (first : tokens.head?.map Token.tag = some .identifier) :
    ∃ lexeme, (placed offset tokens).head? = some lexeme ∧ lexeme.span.start = offset := by
  -- An identifier is no blank, so the first token stays in front.
  obtain ⟨token, start, tag⟩ := Option.map_eq_some_iff.mp first
  obtain ⟨rest, rfl⟩ := List.head?_eq_some_iff.mp start
  refine ⟨⟨token.tag, token.text, Span.ofLength offset token.byteLength⟩, ?_, rfl⟩
  simp [placed, locate, tag, Token.text]

/-- The last lexeme ends where the tokens do. -/
theorem placed_getLast {tokens : List Token} (offset : Nat)
    (last : tokens.getLast?.map Token.tag = some .identifier)
    (fits : offset + byteLength (joined tokens) ≤ Span.limit) :
    ∃ lexeme, (placed offset tokens).getLast? = some lexeme ∧
      lexeme.span.stop = offset + byteLength (joined tokens) := by
  -- All tokens before the last one are counted by their bytes, which gives the place it ends.
  obtain ⟨token, final, tag⟩ := Option.map_eq_some_iff.mp last
  obtain ⟨front, rfl⟩ := List.getLast?_eq_some_iff.mp final
  simp only [Token.joined_append, Token.joined_cons, Token.joined_nil, List.append_nil,
    byteLength_append] at fits ⊢
  rw [placed_append [token] (by omega)]
  refine ⟨⟨token.tag, token.text, Span.ofLength (offset + byteLength (joined front))
    token.byteLength⟩, ?_, ?_⟩
  · simp [placed, locate, tag, Token.text]
  · simp only [Span.ofLength, Token.byteLength]
    omega

end Lexeme

/-- A place that is covered from one end to the other is that place. -/
@[simp] theorem Span.cover_self (span : Span) : span.cover span = span := rfl

/-- A span over the bytes of a part of a text cuts out that part. -/
theorem Span.slice_of_append {source : String} {before middle after : List Char}
    (split : source.toList = before ++ (middle ++ after)) :
    Span.slice ⟨byteLength before, byteLength before + byteLength middle⟩ source =
      String.ofList middle := by
  -- The place lies on boundaries, since all three parts have whole characters.
  rw [Span.slice, sliceBytes?_of_append split, Option.getD_some]

/-- Tokens whose first and last solid ones are identifiers have a path between those two. -/
theorem exists_pathSlice {tokens : List Token}
    (first : (solid tokens).head?.map Token.tag = some .identifier)
    (last : (solid tokens).getLast?.map Token.tag = some .identifier) :
    ∃ path, PathSlice tokens path := by
  -- The first and the last solid token are looked up among all tokens, blanks included.
  obtain ⟨head, starts, headTag⟩ := Option.map_eq_some_iff.mp first
  obtain ⟨inner, rest⟩ := List.head?_eq_some_iff.mp starts
  obtain ⟨before, behind, rfl, noneBefore, _, found⟩ := List.filter_eq_cons_iff.mp rest
  have blank : solid before = [] := List.filter_eq_nil_iff.mpr noneBefore
  -- Either that identifier is the only one, or the last one stands behind it.
  rcases List.eq_nil_or_concat inner with rfl | ⟨middle, final, rfl⟩
  · refine ⟨[head], ⟨before, behind, by simp, blank, found⟩, ?_, ?_⟩ <;> simp [headTag]
  · rw [List.concat_eq_append] at found rest
    obtain ⟨between, ending, rfl, _, closing⟩ := List.filter_eq_append_iff.mp found
    obtain ⟨gap, after, rfl, _, _, noneAfter⟩ := List.filter_eq_cons_iff.mp closing
    rw [rest] at last
    have finalTag : final.tag = .identifier := by simpa [List.getLast?_cons] using last
    refine ⟨head :: (between ++ gap ++ [final]), ⟨before, after, by simp, blank, noneAfter⟩, ?_, ?_⟩
    · simp [headTag]
    · simp [List.getLast?_cons, finalTag]

/-- The span from a path's first lexeme to its last cuts the path out, whatever stands behind. -/
theorem Lexeme.slice_of_split {source : String} {before path after : List Token}
    (short : byteLength source.toList ≤ Span.limit)
    (split : Token.ofChars source.toList = before ++ (path ++ after))
    (blank : solid before = [])
    (starts : path.head?.map Token.tag = some .identifier)
    (ends : path.getLast?.map Token.tag = some .identifier) :
    ∃ inner behind first last, ofText source = inner ++ behind ∧ tokens inner = solid path ∧
      inner.head? = some first ∧ inner.getLast? = some last ∧
      (first.span.cover last.span).slice source = String.ofList (joined path) := by
  have text := (Token.ofChars_eq_iff.mp split).1
  simp only [Token.joined_append] at text
  rw [← text] at short
  simp only [byteLength_append] at short
  -- The blanks in front leave nothing, so the lexemes begin with those of the path.
  have lexemes : ofText source = placed (byteLength (joined before)) path ++
      placed (byteLength (joined before) + byteLength (joined path)) after := by
    show placed 0 (Token.ofChars source.toList) = _
    rw [split, placed_append _ (by omega), placed_of_blank blank, placed_append _ (by omega)]
    simp
  obtain ⟨first, head, start⟩ := placed_head (byteLength (joined before)) starts
  obtain ⟨last, final, stop⟩ := placed_getLast (byteLength (joined before)) ends (by omega)
  refine ⟨_, _, first, last, lexemes, tokens_placed _ _, head, final, ?_⟩
  rw [Span.cover, start, stop]
  exact Span.slice_of_append text.symm

/-- Between nothing but blanks the lexemes of a path are all that there are. -/
theorem Lexeme.slice_of_pathSlice {source : String} {path : List Token}
    (short : byteLength source.toList ≤ Span.limit)
    (slice : PathSlice (Token.ofChars source.toList) path) :
    ∃ first last, (ofText source).head? = some first ∧ (ofText source).getLast? = some last ∧
      (first.span.cover last.span).slice source = String.ofList (joined path) := by
  obtain ⟨⟨before, after, split, noneBefore, noneAfter⟩, starts, ends⟩ := slice
  rw [List.append_assoc] at split
  obtain ⟨inner, behind, first, last, lexemes, own, head, final, text⟩ :=
    slice_of_split short split noneBefore starts ends
  -- What stands behind the path has no tokens that are not blank.
  have tokens := tokens_ofText source
  rw [lexemes, split, tokens_append, own] at tokens
  rw [Token.solid_append, Token.solid_append, noneBefore, noneAfter, List.append_nil,
    List.nil_append, List.append_right_eq_self] at tokens
  obtain rfl := List.map_eq_nil_iff.mp tokens
  rw [lexemes, List.append_nil]
  exact ⟨first, last, head, final, text⟩

end Motif
