import Motif.Proofs.Tiling

/-!
Every token is the longest one that starts where it does, and it is that token by itself too.

A token that the text behind it continues is the front of a longer one, so the token that is read,
which nothing continues, is at least as long as any other.
-/

namespace Motif

variable {chars digits front behind text : List Char} {char first : Char} {rest : List Char}

/-- An identifier goes on with whatever names go on with. -/
theorem IsIdentifier.concat (own : IsIdentifier chars) (more : IsNameRest char) :
    IsIdentifier (chars ++ [char]) := by
  -- It has the same first character, and with one more it is no lone underscore.
  obtain ⟨first, rest, rfl, starts, others, -⟩ := own
  refine ⟨first, rest ++ [char], rfl, starts, ?_, by simp⟩
  simpa [or_imp, forall_and] using ⟨others, more⟩

/-- Digits go on with digits. -/
theorem AreDigits.concat (own : AreDigits digits) (more : char.isDigit = true) :
    AreDigits (digits ++ [char]) := by
  -- The digits in front were digits before.
  refine ⟨by simp, ?_⟩
  simpa [or_imp, forall_and] using ⟨own.2, more⟩

/-- An integer goes on with digits. -/
theorem IsInteger.concat (own : IsInteger chars) (more : char.isDigit = true) :
    IsInteger (chars ++ [char]) := by
  -- The sign stands in front, where nothing is added.
  obtain ⟨digits, own, rfl | rfl⟩ := own
  · exact ⟨_, own.concat more, .inl rfl⟩
  · exact ⟨_, own.concat more, .inr rfl⟩

/-- A float goes on with digits. -/
theorem IsFloat.concat (own : IsFloat chars) (more : char.isDigit = true) :
    IsFloat (chars ++ [char]) := by
  -- The digit is added to those behind the point.
  obtain ⟨whole, fraction, integer, inner, rfl⟩ := own
  exact ⟨whole, fraction ++ [char], integer, inner.concat more, by simp⟩

/-- A quote behind an open quotation closes it farther on. -/
theorem length_le_of_closed {mark : Char} {inner body after : List Char} (single : mark ≠ '\\')
    (still : ∀ body after, inner = body ++ mark :: after → ¬ QuotedBody mark body)
    (closed : closeQuotation? mark (inner ++ behind) = some (body, after)) :
    inner.length ≤ body.length := by
  -- The quote that closes the longer text stands behind a body of its own.
  obtain ⟨split, quoted⟩ := (closeQuotation?_eq_some_iff single).mp closed
  by_contra shorter
  -- A body with fewer characters would be closed within the open quotation already.
  have within : body ++ [mark] <+: inner := by
    refine List.prefix_of_prefix_length_le ⟨after, ?_⟩ (List.prefix_append inner behind) ?_
    · simp [split]
    · simp
      omega
  obtain ⟨later, rfl⟩ := within
  exact still body later (by simp) quoted

namespace Token

variable {token : Token}

/-- A token in front of a text, and a longer one that is known and goes on into the text. -/
def Continues (token : Token) (behind : List Char) : Prop :=
  ∃ (longer : Token) (later : List Char), longer.InClass ∧ longer.tag ≠ .unknown ∧
    longer.chars ++ later = token.chars ++ behind ∧ token.chars.length < longer.chars.length

/-- A token goes on when one more character makes another token of it. -/
theorem continues_of_concat (tag : TokenTag) (own : InClass ⟨tag, token.chars ++ [first]⟩)
    (known : tag ≠ .unknown) : token.Continues (first :: rest) :=
  ⟨_, rest, own, known, by simp, by simp⟩

/-- An open quotation goes on up to the quote that closes it, or to the end. -/
theorem continues_of_unterminated {mark : Char} (quote : mark = '"' ∨ mark = '\'')
    (still : ∀ body after, chars = body ++ mark :: after → ¬ QuotedBody mark body)
    (more : behind ≠ []) :
    Continues ⟨.unterminated, mark :: chars⟩ behind := by
  have single := ne_backslash_of_quote quote
  -- With the text behind it the quotation stays open or is closed there.
  cases closed : closeQuotation? mark (chars ++ behind) with
  | none =>
    have unclosed := (closeQuotation?_eq_none_iff single).mp closed
    refine ⟨⟨.unterminated, mark :: (chars ++ behind)⟩, [], ⟨mark, _, quote, rfl, unclosed⟩,
      by simp, by simp, ?_⟩
    have := List.length_pos_iff.mpr more
    simp only [List.length_cons, List.length_append]
    omega
  | some parts =>
    obtain ⟨body, after⟩ := parts
    obtain ⟨split, inside⟩ := (closeQuotation?_eq_some_iff single).mp closed
    have longer := length_le_of_closed single still closed
    refine ⟨⟨.quotation, mark :: (body ++ [mark])⟩, after, ⟨mark, body, quote, inside, rfl⟩,
      by simp, by simp [split], ?_⟩
    simp only [List.length_cons, List.length_append]
    omega

/-- What does not stop a token continues it. -/
theorem InClass.continues (own : token.InClass) (goesOn : ¬ token.StopsBefore behind) :
    token.Continues behind := by
  -- For each kind the next character, or two of them, are added to make a token.
  obtain ⟨tag, chars⟩ := token
  cases tag <;> simp only [InClass, StopsBefore, Bool.not_eq_false, not_true_eq_false] at own goesOn
  case colon =>
    obtain ⟨first, rest, rfl, passes⟩ := exists_of_begins goesOn
    obtain rfl : first = ':' := by simpa using passes
    subst own
    exact continues_of_concat .pathSeparator (.inr rfl) (by decide)
  case underscore =>
    obtain ⟨first, rest, rfl, passes⟩ := exists_of_begins goesOn
    subst own
    have more := isIdentifierRest_iff.mp passes
    exact continues_of_concat .identifier
      ⟨'_', [first], rfl, .inr rfl, by simpa using more, by simp⟩ (by decide)
  case identifier =>
    obtain ⟨first, rest, rfl, passes⟩ := exists_of_begins goesOn
    exact continues_of_concat .identifier (own.concat (isIdentifierRest_iff.mp passes))
      (by decide)
  case integer =>
    by_cases digit : begins Char.isDigit behind = true
    · obtain ⟨first, rest, rfl, passes⟩ := exists_of_begins digit
      exact continues_of_concat .integer (own.concat passes) (by decide)
    · -- A point with a digit behind it makes a float of the integer.
      rw [Bool.not_eq_true] at digit
      simp only [digit, true_and, not_forall, Bool.not_eq_false] at goesOn
      obtain ⟨first, rest, rfl, passes⟩ := goesOn
      have float : IsFloat (chars ++ ['.', first]) :=
        ⟨chars, [first], own, ⟨by simp, by simpa using passes⟩, rfl⟩
      exact ⟨⟨.float, _⟩, rest, float, by simp, by simp, by simp⟩
  case float =>
    obtain ⟨first, rest, rfl, passes⟩ := exists_of_begins goesOn
    exact continues_of_concat .float (own.concat passes) (by decide)
  case unterminated =>
    obtain ⟨mark, rest, quote, rfl, still⟩ := own
    exact continues_of_unterminated quote still goesOn
  case whitespace =>
    obtain ⟨first, rest, rfl, passes⟩ := exists_of_begins goesOn
    refine continues_of_concat .whitespace ⟨by simp, ?_⟩ (by decide)
    simpa [or_imp, forall_and] using ⟨own.2, isBlank_iff.mp passes⟩
  case unknown =>
    simp only [Classical.not_imp, Bool.not_eq_false] at goesOn
    obtain ⟨rfl, digit⟩ := goesOn
    obtain ⟨first, rest, rfl, passes⟩ := exists_of_begins digit
    exact continues_of_concat .integer ⟨[first], ⟨by simp, by simpa using passes⟩, .inr rfl⟩
      (by decide)

/-- No token is longer than the one that is read, and no known one stands where that is unknown. -/
theorem InClass.le_scan (own : token.InClass) (split : token.chars ++ behind = first :: rest) :
    token.chars.length ≤ (scan first rest).1.chars.length ∧
      (token.tag ≠ .unknown → (scan first rest).1.tag ≠ .unknown) := by
  -- A token that goes on is replaced by a longer one, until nothing continues it.
  induction size : behind.length using Nat.strong_induction_on generalizing token behind with
  | _ size ih =>
    subst size
    by_cases stops : token.StopsBefore behind
    · rw [scan_of_class split own stops]
      exact ⟨le_rfl, id⟩
    · obtain ⟨longer, later, class', known, same, more⟩ := own.continues stops
      have total := congrArg List.length same
      simp only [List.length_append] at total
      obtain ⟨bound, kept⟩ := ih later.length (by omega) class' (same.trans split) rfl
      exact ⟨by omega, fun _ => kept known⟩

/-- A token at the front of a text, from which no other token takes anything away. -/
structure Leads (token : Token) (text : List Char) : Prop where
  /-- The characters of the token are of the kind that its tag says. -/
  inClass : token.InClass
  front : token.chars <+: text
  /-- No longer piece from the front of the text is a token of any kind. -/
  longest : ∀ other : Token, other.InClass → other.chars <+: text →
    other.chars.length ≤ token.chars.length
  /-- Where a character is unknown, no token of another kind starts. -/
  unknown : token.tag = .unknown → ∀ other : Token, other.InClass → other.chars <+: text →
    other.tag = .unknown
  /-- An open quotation runs to the end of the text, since no quote in it could close it. -/
  unterminated : token.tag = .unterminated → token.chars = text ∧
    ∀ mark rest, text = mark :: rest → ∀ body after, QuotedBody mark body →
      rest ≠ body ++ mark :: after

/-- The token that is read leads the text that it is read from. -/
theorem leads_of_stops (own : token.InClass) (stops : token.StopsBefore behind) :
    token.Leads (token.chars ++ behind) := by
  -- Nothing continues the token, so it is what is read, and no other one is longer.
  obtain ⟨first, rest, split⟩ :=
    List.exists_cons_of_ne_nil (List.append_ne_nil_of_left_ne_nil own.chars_ne_nil behind)
  have read := scan_of_class split own stops
  refine ⟨own, List.prefix_append .., ?longest, ?unknown, ?unterminated⟩
  case longest =>
    rintro other class' ⟨later, same⟩
    have bound := (class'.le_scan (same.trans split)).1
    rwa [read] at bound
  case unknown =>
    rintro tag other class' ⟨later, same⟩
    have kept := (class'.le_scan (same.trans split)).2
    rw [read] at kept
    by_contra known
    exact kept known tag
  case unterminated =>
    intro tag
    simp only [InClass, StopsBefore, tag] at own stops
    obtain ⟨mark, inner, quote, chars, still⟩ := own
    subst stops
    rw [List.append_nil]
    refine ⟨rfl, ?_⟩
    intro mark' rest' same body after inside split
    obtain ⟨rfl, rfl⟩ := List.cons.inj (chars.symm.trans same)
    exact still body after split inside

/-- A token among those of a text has the rest of the text behind it, which does not continue it. -/
theorem leads_of_ofChars {source : List Char} {before after : List Token}
    (split : ofChars source = before ++ token :: after) :
    source = joined before ++ (token.chars ++ joined after) ∧
      token.Leads (token.chars ++ joined after) := by
  -- The tokens in front of it cover what stands in front of it.
  obtain ⟨text, settled⟩ := ofChars_eq_iff.mp split
  rw [settled_append] at settled
  obtain ⟨own, stops, -⟩ := settled.2
  rw [List.append_nil] at stops
  refine ⟨?_, leads_of_stops own stops⟩
  rw [← text, joined_append, joined_cons]

/-- Only the last token is the end, so the others are tokens of the text. -/
theorem exists_of_tokenize_eq_append {source : String} {before after : List Token}
    (split : tokenize source = before ++ token :: after) (more : token.tag ≠ .finish) :
    ∃ others, ofChars source.toList = before ++ token :: others := by
  -- The end was put behind the tokens of the text, so it can be taken off again.
  rw [tokenize] at split
  rcases List.eq_nil_or_concat after with rfl | ⟨others, last, rfl⟩
  · obtain ⟨-, same⟩ := List.append_inj' split rfl
    obtain rfl := List.singleton_inj.mp same
    exact absurd rfl more
  · have ends : ofChars source.toList ++ [finish] = (before ++ token :: others) ++ [last] := by
      simpa using split
    exact ⟨others, (List.append_inj' ends rfl).1⟩

/--
Every token is of its kind, it is the longest one that starts where it does, and the text that it
covers is that token by itself.

A token starts behind the bytes of those before it. Its own bytes cut its characters out.
-/
theorem tokens_are_longest {source : String} (short : Motif.byteLength source.toList ≤ Span.limit)
    {before after : List Token} (split : tokenize source = before ++ token :: after)
    (more : token.tag ≠ .finish) :
    let start := (before.map byteLength).sum
    ∃ passed remaining, cutAtByte? start source.toList = some (passed, remaining) ∧
      Span.slice ⟨start, start + token.byteLength⟩ source = token.text ∧
      token.Leads remaining ∧ tokenize token.text = [token, finish] := by
  intro start
  obtain ⟨others, tokens⟩ := exists_of_tokenize_eq_append split more
  obtain ⟨text, leads⟩ := leads_of_ofChars tokens
  rw [text, byteLength_append, byteLength_append] at short
  -- Within reach of a span no byte is left out of the counts.
  have place : start = Motif.byteLength (joined before) := sum_byteLength (by omega)
  have width : token.byteLength = Motif.byteLength token.chars := Nat.min_eq_left (by omega)
  refine ⟨joined before, token.chars ++ joined others, ?_, ?_, leads, ?_⟩
  · rw [place, text, cutAtByte?_append]
  · rw [place, width]
    exact Span.slice_of_append text
  · exact tokenize_eq_singleton_iff.mpr ⟨(String.toList_ofList).symm, leads.inClass⟩

/-- A number behind two bytes ends before a point that no digit follows. -/
theorem tokens_are_longest_of_point :
    let source := "é-7.x"
    let number : Token := ⟨.integer, "-7".toList⟩
    let after : List Token := [⟨.unknown, ['.']⟩, ⟨.identifier, ['x']⟩, finish]
    Motif.byteLength source.toList ≤ Span.limit ∧
      tokenize source = [⟨.unknown, ['é']⟩] ++ number :: after ∧ number.tag ≠ .finish ∧
      cutAtByte? 2 source.toList = some (['é'], "-7.x".toList) ∧
      Span.slice ⟨2, 4⟩ source = "-7" ∧ number.Leads "-7.x".toList ∧
      tokenize "-7" = [number, finish] := by
  intro source number after
  have short : Motif.byteLength source.toList ≤ Span.limit := by decide
  have split : tokenize source = [⟨.unknown, ['é']⟩] ++ number :: after := by cbv
  have more : number.tag ≠ .finish := by decide
  have cut : cutAtByte? 2 source.toList = some (['é'], "-7.x".toList) := by decide
  obtain ⟨passed, remaining, place, slice, leads, alone⟩ := tokens_are_longest short split more
  obtain ⟨rfl, rfl⟩ := Prod.mk.inj (Option.some.inj (place.symm.trans cut))
  exact ⟨short, split, more, cut, slice, leads, alone⟩

end Token

end Motif
