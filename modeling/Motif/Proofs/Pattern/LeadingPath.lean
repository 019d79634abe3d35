import Motif.Proofs.Pattern.Reading

/-!
The piece of a text that names a type tag, blanks between its tokens included.

It goes from the first identifier of a path to the last one, and is found from the tokens alone.
-/

namespace Motif

open Token (joined solid)

/-- The tokens of a path in front, from its first identifier to the last one that belongs to it. -/
structure LeadingPath (tokens path : List Token) : Prop where
  around : ∃ before behind, tokens = before ++ (path ++ behind) ∧ solid before = [] ∧
    (solid behind).head?.map Token.tag ≠ some .pathSeparator
  first : path.head?.map Token.tag = some .identifier
  last : path.getLast?.map Token.tag = some .identifier
  form : ∃ segments, Separated .pathSeparator NameForm (solid path) segments

/-- A path that goes as far as there are separators is the only one in front. -/
theorem Separated.eq_of_append {path other back rest : List Token} {segments names : List String}
    (form : Separated .pathSeparator NameForm path segments)
    (form' : Separated .pathSeparator NameForm other names)
    (ends : back.head?.map Token.tag ≠ some .pathSeparator)
    (ends' : rest.head?.map Token.tag ≠ some .pathSeparator) (same : path ++ back = other ++ rest) :
    path = other := by
  -- Segment by segment, both paths go on or both of them end.
  induction form generalizing other names with
  | one name =>
    obtain ⟨-⟩ := name
    cases form' with
    | one name' =>
      obtain ⟨-⟩ := name'
      exact congrArg (fun token => [token]) (List.cons.inj same).1
    | more name' between others =>
      obtain ⟨-⟩ := name'
      obtain ⟨-, rfl⟩ := List.cons.inj same
      exact absurd (congrArg some between) ends
  | more name between others ih =>
    obtain ⟨-⟩ := name
    cases form' with
    | one name' =>
      obtain ⟨-⟩ := name'
      obtain ⟨-, rfl⟩ := List.cons.inj same
      exact absurd (congrArg some between) ends'
    | more name' between' others' =>
      obtain ⟨-⟩ := name'
      obtain ⟨rfl, following⟩ := List.cons.inj same
      obtain ⟨rfl, behind⟩ := List.cons.inj following
      rw [ih others' behind]

namespace LeadingPath

variable {tokens other path path' : List Token}

/-- Of the same solid tokens the same ones are the path in front, wherever the blanks are. -/
theorem solid_eq (own : LeadingPath tokens path) (own' : LeadingPath other path')
    (same : solid tokens = solid other) : solid path = solid path' := by
  obtain ⟨before, behind, rfl, blank, ends⟩ := own.around
  obtain ⟨before', behind', rfl, blank', ends'⟩ := own'.around
  obtain ⟨segments, form⟩ := own.form
  obtain ⟨names, form'⟩ := own'.form
  -- The blanks in front count on neither side.
  simp only [Token.solid_append, blank, blank', List.nil_append] at same
  exact form.eq_of_append form' ends ends' same

/-- A path in front begins with the first solid token of all. -/
theorem solid_first (own : LeadingPath tokens path) :
    (solid tokens).head?.map Token.tag = some .identifier := by
  -- It begins with an identifier, and in front of that there are only blanks.
  obtain ⟨before, behind, rfl, blank, -⟩ := own.around
  obtain ⟨segments, form⟩ := own.form
  obtain ⟨token, starts, tag⟩ := Option.map_eq_some_iff.mp form.path_edges.1
  obtain ⟨rest, solids⟩ := List.head?_eq_some_iff.mp starts
  simp [Token.solid_append, blank, solids, tag]

/-- Blanks do not reach into what begins with an identifier. -/
theorem eq_nil_of_blanks {before extra rest : List Token} (blank : solid (before ++ extra) = [])
    (first : (extra ++ rest).head?.map Token.tag = some .identifier) : extra = [] := by
  -- Its first token would be a blank and an identifier.
  cases extra with
  | nil => rfl
  | cons token extra =>
    have gap := Token.solid_eq_nil_iff.mp blank token (by simp)
    simp [gap] at first

/-- What ends with an identifier has no blanks behind its last solid token. -/
theorem eq_nil_of_last {extra : List Token} (none : solid extra = [])
    (last : (path ++ extra).getLast?.map Token.tag = some .identifier) : extra = [] := by
  -- Its last token would be a blank and an identifier.
  rcases List.eq_nil_or_concat extra with rfl | ⟨front, final, rfl⟩
  · rfl
  · have gap := Token.solid_eq_nil_iff.mp none final (by simp)
    simp [← List.append_assoc, gap] at last

/-- A path in front stays in front of whatever is put behind it. -/
theorem first_append (own : LeadingPath tokens path) (rest : List Token) :
    (path ++ rest).head?.map Token.tag = some .identifier := by
  obtain ⟨token, starts, tag⟩ := Option.map_eq_some_iff.mp own.first
  obtain ⟨inner, rfl⟩ := List.head?_eq_some_iff.mp starts
  simp [tag]

/-- Tokens have one path in front at most. -/
theorem unique (own : LeadingPath tokens path) (own' : LeadingPath tokens path') :
    path = path' := by
  have solids := own.solid_eq own' rfl
  obtain ⟨before, behind, whole, blank, -⟩ := own.around
  obtain ⟨before', behind', whole', blank', -⟩ := own'.around
  -- Neither of the two starts behind the other, because only blanks are in front of them.
  have starts : path ++ behind = path' ++ behind' := by
    rcases List.append_eq_append_iff.mp (whole.symm.trans whole') with
      ⟨extra, rfl, split⟩ | ⟨extra, rfl, split⟩
    · rwa [eq_nil_of_blanks blank' (split ▸ own.first_append behind), List.nil_append] at split
    · rw [eq_nil_of_blanks blank (split ▸ own'.first_append behind'), List.nil_append] at split
      exact split.symm
  -- Neither of them ends behind the other, because both of them have the same solid tokens.
  rcases List.append_eq_append_iff.mp starts with ⟨extra, rfl, -⟩ | ⟨extra, rfl, -⟩
  · rw [Token.solid_append, List.self_eq_append_right] at solids
    rw [eq_nil_of_last solids own'.last, List.append_nil]
  · rw [Token.solid_append, List.append_right_eq_self] at solids
    rw [eq_nil_of_last solids own.last, List.append_nil]

end LeadingPath

/-- Tokens in which no blank stands beside a path separator. -/
def Token.Unbroken (tokens : List Token) : Prop :=
  tokens.IsChain fun left right =>
    (left.tag = .whitespace → right.tag ≠ .pathSeparator) ∧
      (left.tag = .pathSeparator → right.tag ≠ .whitespace)

/-- Of two tokens side by side, one is no blank where the other is a separator. -/
theorem Token.Unbroken.beside {tokens : List Token} (unbroken : Unbroken tokens)
    (front : List Token) {left right : Token} (back : List Token)
    (split : tokens = front ++ left :: right :: back) :
    (left.tag = .whitespace → right.tag ≠ .pathSeparator) ∧
      (left.tag = .pathSeparator → right.tag ≠ .whitespace) :=
  List.isChain_iff_forall_rel_of_append_cons_cons.mp unbroken split

/-- From its first identifier to its last one an unbroken path has no blanks at all. -/
theorem Separated.eq_of_unbroken {path : List Token} {segments : List String}
    (form : Separated .pathSeparator NameForm path segments) :
    ∀ (first : Token) (rest : List Token), first.tag = .identifier →
      solid (first :: rest) = path →
      (first :: rest).getLast?.map Token.tag = some .identifier →
      Token.Unbroken (first :: rest) → first :: rest = path := by
  -- The path goes on behind a separator, which has its neighbours right beside it.
  induction form with
  | one form =>
    obtain ⟨tag⟩ := form
    intro first rest named same ends unbroken
    rw [Token.solid_cons (by simp [named])] at same
    obtain ⟨rfl, blank⟩ := List.cons.inj same
    -- Whatever is behind the identifier would end in another one.
    rcases List.eq_nil_or_concat rest with rfl | ⟨between, last, rfl⟩
    · rfl
    · rw [List.concat_eq_append] at ends blank
      have final : last.tag = .identifier := by simpa [List.getLast?_cons] using ends
      have gap := Token.solid_eq_nil_iff.mp blank last (by simp)
      rw [final] at gap
      cases gap
  | @more _ path separator _ _ form between others ih =>
    obtain ⟨tag⟩ := form
    intro first rest named same ends unbroken
    rw [Token.solid_cons (by simp [named]), List.singleton_append] at same
    obtain ⟨rfl, following⟩ := List.cons.inj same
    obtain ⟨blanks, behind, rfl, blank, inner⟩ := Token.exists_of_solid_eq_cons following
    obtain rfl : blanks = [] := by
      rcases List.eq_nil_or_concat blanks with none | ⟨front, last, rfl⟩
      · exact none
      · have gap := Token.solid_eq_nil_iff.mp blank last (by simp)
        exact absurd between ((unbroken.beside (first :: front) behind (by simp)).1 gap)
    -- The rest of the path starts right behind the separator, so it has no blanks either.
    have edges := others.path_edges.1
    cases behind with
    | nil =>
      rw [← inner] at edges
      cases edges
    | cons segment behind =>
      have gapless := (unbroken.beside [first] behind rfl).2 between
      have tag : segment.tag = .identifier := by
        rw [← inner, Token.solid_cons gapless] at edges
        simpa using edges
      have whole := ih segment behind tag inner (by simpa [List.getLast?_cons] using ends)
        unbroken.tail.tail
      rw [← whole]
      rfl

/-- Where no blank stands beside a separator there is none in the path either. -/
theorem LeadingPath.eq_solid {tokens path : List Token} (own : LeadingPath tokens path)
    (unbroken : Token.Unbroken tokens) : path = solid path := by
  -- A part of an unbroken text is unbroken too.
  obtain ⟨before, behind, rfl, -, -⟩ := own.around
  obtain ⟨segments, form⟩ := own.form
  obtain ⟨first, starts, named⟩ := Option.map_eq_some_iff.mp own.first
  obtain ⟨rest, rfl⟩ := List.head?_eq_some_iff.mp starts
  exact form.eq_of_unbroken first rest named rfl own.last
    unbroken.right_of_append.left_of_append

/-- The span from a path's first lexeme to its last cuts out the path that stands in front. -/
theorem Lexeme.exists_leadingPath {source : String} {first last : Lexeme}
    {path behind : List Lexeme} {segments : List String}
    (short : byteLength source.toList ≤ Span.limit)
    (lexemes : ofText source = (first :: path) ++ behind)
    (final : (first :: path).getLast? = some last)
    (form : Separated .pathSeparator NameForm (tokens (first :: path)) segments)
    (ends : behind.head?.map Lexeme.tag ≠ some .pathSeparator) :
    ∃ slice, LeadingPath (Token.ofChars source.toList) slice ∧
      (first.span.cover last.span).slice source = String.ofList (joined slice) := by
  have whole := (tokens_ofText source).symm
  rw [lexemes, tokens_append] at whole
  -- The path is found among all tokens of the text, with blanks in front of it.
  obtain ⟨front, rest, split, own, left⟩ := Token.exists_of_solid_eq_append whole
  have edges := form.path_edges
  rw [← own] at edges
  obtain ⟨slice, ⟨before, after, rfl, blank, trailing⟩, starts, stops⟩ :=
    exists_pathSlice edges.1 edges.2
  rw [Token.solid_append, Token.solid_append, blank, trailing, List.nil_append,
    List.append_nil] at own
  rw [List.append_assoc, List.append_assoc] at split
  obtain ⟨inner, behind', first', last', lexemes', own', head, final', text⟩ :=
    slice_of_split short split blank starts stops
  -- Both are in front of the same lexemes and have as many tokens.
  have count : inner.length = (first :: path).length := by
    have tokens := congrArg List.length (own'.trans own)
    simpa [Lexeme.tokens] using tokens
  obtain ⟨rfl, -⟩ := List.append_inj (lexemes'.symm.trans lexemes) count
  obtain rfl : first = first' := Option.some.inj head
  obtain rfl : last = last' := Option.some.inj (final.symm.trans final')
  refine ⟨slice, ⟨⟨before, after ++ rest, split, blank, ?_⟩, starts, stops, _, own ▸ form⟩, text⟩
  rw [Token.solid_append, trailing, List.nil_append, left]
  cases behind with
  | nil => simp
  | cons mark behind => simpa using ends

end Motif
