import Motif.Matching
import Motif.Proofs.Pattern.WellFormed

/-!
Which objects a type tag selects.

A path is read token by token, but its last segment is found by looking for separators among its
characters. Both give the same name as soon as that begins with a letter.
-/

namespace Motif

open Token (joined solid)

section Cutting

/-- What was taken before stays behind all that is taken later. -/
theorem afterDoubleColon_go_append (taken behind text : List Char) :
    afterDoubleColon.go (taken ++ behind) text = afterDoubleColon.go taken text ++ behind := by
  fun_induction afterDoubleColon.go taken text with
  | case1 => rfl
  | case2 => rfl
  | case3 taken char rest single ih => rw [← ih, afterDoubleColon.go.eq_3 _ _ _ single]; rfl

/-- Going to the left, characters other than colons are passed over. -/
theorem afterDoubleColon_go_skip {skipped : List Char} (colonless : ':' ∉ skipped)
    (taken text : List Char) :
    afterDoubleColon.go taken (skipped ++ text) =
      afterDoubleColon.go (skipped.reverse ++ taken) text := by
  induction skipped generalizing taken with
  | nil => rfl
  | cons char rest ih =>
    have single : ∀ behind, char = ':' → rest ++ text = ':' :: behind → False :=
      fun _ colon _ => List.ne_of_not_mem_cons colonless colon.symm
    have others : ':' ∉ rest := List.not_mem_of_not_mem_cons colonless
    rw [List.cons_append, afterDoubleColon.go.eq_3 _ _ _ single, ih others, List.reverse_cons,
      List.append_assoc, List.singleton_append]

/-- A piece without colons is kept at the end of a text. -/
theorem afterDoubleColon_append (front : List Char) {back : List Char} (colonless : ':' ∉ back) :
    afterDoubleColon (front ++ back) = afterDoubleColon front ++ back := by
  have colonless' : ':' ∉ back.reverse := mt List.mem_reverse.mp colonless
  rw [afterDoubleColon, List.reverse_append, afterDoubleColon_go_skip colonless', List.append_nil,
    List.reverse_reverse]
  exact afterDoubleColon_go_append [] back front.reverse

/-- A text without backslashes stays whole, and behind a backslash it is all that is left. -/
theorem afterBackslash_append {back : List Char} (slashless : '\\' ∉ back) :
    afterBackslash back = back ∧ ∀ front, afterBackslash (front ++ '\\' :: back) = back := by
  have kept : ∀ char ∈ back.reverse, (char != '\\') = true := by
    intro char member
    exact bne_iff_ne.mpr (ne_of_mem_of_not_mem (List.mem_reverse.mp member) slashless)
  constructor
  · rw [afterBackslash, List.takeWhile_eq_self_iff.mpr kept, List.reverse_reverse]
  · intro front
    have stops : begins (· != '\\') ('\\' :: front.reverse) = false := rfl
    rw [afterBackslash, List.reverse_append, List.reverse_cons, List.append_assoc,
      List.singleton_append, (Token.takeWhile_of_begins kept stops).1, List.reverse_reverse]

/-- A text without separators is its own last segment. -/
theorem lastSegment_of_plain {text : List Char} (colonless : ':' ∉ text)
    (slashless : '\\' ∉ text) : lastSegment (String.ofList text) = String.ofList text := by
  have colons : afterDoubleColon text = text := afterDoubleColon_append [] colonless
  rw [lastSegment, String.toList_ofList, colons, (afterBackslash_append slashless).1]

/-- Behind a separator a text without separators is the last segment. -/
theorem lastSegment_of_separator {separator : Token} (own : separator.InClass)
    (between : separator.tag = .pathSeparator) (front : List Char) {back : List Char}
    (colonless : ':' ∉ back) (slashless : '\\' ∉ back) :
    lastSegment (String.ofList (front ++ separator.chars ++ back)) = String.ofList back := by
  simp only [Token.InClass, between] at own
  rw [lastSegment, String.toList_ofList, afterDoubleColon_append _ colonless]
  rcases own with backslash | colons
  · -- The backslash is not cut off with the colons before it, so it is found afterwards.
    rw [backslash, afterDoubleColon_append front (by decide), List.append_assoc,
      List.singleton_append, (afterBackslash_append slashless).2]
  · have none : afterDoubleColon (front ++ [':', ':']) = [] := by
      simp [afterDoubleColon, afterDoubleColon.go]
    rw [colons, none, List.nil_append, (afterBackslash_append slashless).1]

end Cutting

/-- Neither identifiers nor blanks have any of the characters of separators. -/
theorem Token.plain_joined {tokens : List Token} (own : ∀ token ∈ tokens, token.InClass)
    (tags : ∀ token ∈ tokens, token.tag = .identifier ∨ token.tag = .whitespace) :
    ':' ∉ joined tokens ∧ '\\' ∉ joined tokens := by
  -- Their characters are those of names or blanks, and separators have others.
  have every : ∀ char ∈ joined tokens, IsNameRest char ∨ IsBlank char := by
    intro char member
    obtain ⟨token, among, inside⟩ := List.mem_flatMap.mp member
    have inClass := own token among
    rcases tags token among with tag | tag <;> simp only [InClass, tag] at inClass
    · obtain ⟨first, rest, chars, start, all, -⟩ := inClass
      rw [chars] at inside
      rcases List.mem_cons.mp inside with rfl | later
      · exact .inl start.rest
      · exact .inl (all char later)
    · exact .inr (inClass.2 char inside)
  have apart (char : Char) (rest : isIdentifierRest char = false) (blank : isBlank char = false) :
      char ∉ joined tokens := by
    intro member
    rcases every char member with own | own
    · rw [isIdentifierRest_iff.mpr own] at rest
      cases rest
    · rw [isBlank_iff.mpr own] at blank
      cases blank
  exact ⟨apart ':' (by decide) (by decide), apart '\\' (by decide) (by decide)⟩

/-- No blank stands where a text begins with a capital letter. -/
theorem Token.eq_nil_of_begins_upper {blanks : List Token} {behind : List Char}
    (own : ∀ token ∈ blanks, token.InClass) (none : solid blanks = [])
    (capital : begins Char.isUpper (joined blanks ++ behind) = true) : blanks = [] := by
  -- If there were one, its first character would be a blank and a capital letter.
  cases blanks with
  | nil => rfl
  | cons gap rest =>
    have inClass := own gap (List.mem_cons_self ..)
    simp only [InClass, solid_eq_nil_iff.mp none gap (List.mem_cons_self ..)] at inClass
    obtain ⟨first, others, chars⟩ := List.exists_cons_of_ne_nil inClass.1
    have blank : IsBlank first := inClass.2 first (by simp [chars])
    have upper : first.isUpper = true := by simpa [chars, begins] using capital
    -- No blank is a capital letter.
    simp only [IsBlank, List.mem_cons, List.not_mem_nil, or_false] at blank
    rcases blank with rfl | rfl | rfl | rfl | rfl <;> cases upper

/-- A path ends in its last segment, with a separator before it unless that is the only one. -/
theorem Separated.path_final {tokens : List Token} {segments : List String}
    (form : Separated .pathSeparator NameForm tokens segments) :
    ∃ front final, tokens = front ++ [final] ∧ final.tag = .identifier ∧
      segments.getLast? = some final.text ∧
      (front = [] ∨
        ∃ others separator, front = others ++ [separator] ∧ separator.tag = .pathSeparator) := by
  -- The last separator stands where the path behind it has a single segment.
  induction form with
  | one form =>
    obtain ⟨tag⟩ := form
    exact ⟨[], _, rfl, tag, rfl, .inl rfl⟩
  | @more front _ separator item items _ between _ ih =>
    obtain ⟨before, final, rfl, tag, last, shape⟩ := ih
    refine ⟨front ++ separator :: before, final, by simp, tag,
      by simp [List.getLast?_cons, last], .inr ?_⟩
    rcases shape with rfl | ⟨others, mark, rfl, marked⟩
    · exact ⟨front, separator, rfl, between⟩
    · exact ⟨front ++ separator :: others, mark, by simp, marked⟩

/-- In a text there may be blanks between the last separator of a path and its last segment. -/
theorem PathSlice.final {tokens path : List Token} {segments : List String}
    (slice : PathSlice tokens path)
    (form : Separated .pathSeparator NameForm (solid tokens) segments) :
    ∃ final, (solid tokens).getLast? = some final ∧ final.tag = .identifier ∧
      segments.getLast? = some final.text ∧
      (path = [final] ∨ ∃ front separator blanks, solid blanks = [] ∧
        separator.tag = .pathSeparator ∧ path = front ++ separator :: (blanks ++ [final])) := by
  -- The path ends in a solid token, and blanks may stand anywhere between such tokens.
  obtain ⟨⟨before, after, rfl, noneBefore, noneAfter⟩, first, last⟩ := slice
  rw [Token.solid_append, Token.solid_append, noneBefore, noneAfter, List.nil_append,
    List.append_nil] at form ⊢
  obtain ⟨final, ends, tag⟩ := Option.map_eq_some_iff.mp last
  obtain ⟨front, rfl⟩ := List.getLast?_eq_some_iff.mp ends
  have split : solid (front ++ [final]) = solid front ++ [final] := by
    rw [Token.solid_append, Token.solid_cons (by simp [tag])]
    rfl
  rw [split] at form ⊢
  obtain ⟨inner, token, whole, -, named, shape⟩ := form.path_final
  obtain ⟨own, only⟩ := List.append_inj' whole rfl
  obtain rfl : final = token := List.singleton_inj.mp only
  refine ⟨final, List.getLast?_concat, tag, named, ?_⟩
  rcases shape with rfl | ⟨others, separator, rfl, between⟩
  · -- The path starts with an identifier, so there is no blank in front of the only one.
    left
    cases front with
    | nil => rfl
    | cons head rest =>
      have blank := Token.solid_eq_nil_iff.mp own head (List.mem_cons_self ..)
      simp [blank] at first
  · right
    obtain ⟨start, tail, rfl, -, marked⟩ := Token.exists_of_solid_eq_append own
    obtain ⟨gap, blanks, rfl, -, none⟩ := Token.exists_of_solid_eq_cons marked
    exact ⟨start ++ gap, separator, blanks, none, between, by simp⟩

/-- The last segment that is cut off a path is the last that was read, if it is capitalised. -/
theorem PathSlice.lastSegment_eq {text : List Char} {path : List Token} {segments : List String}
    (slice : PathSlice (Token.ofChars text) path)
    (form : Separated .pathSeparator NameForm (solid (Token.ofChars text)) segments)
    (capital : begins Char.isUpper (lastSegment (String.ofList (joined path))).toList = true) :
    ∃ final, (solid (Token.ofChars text)).getLast? = some final ∧ final.tag = .identifier ∧
      segments.getLast? = some final.text ∧
      lastSegment (String.ofList (joined path)) = final.text := by
  obtain ⟨final, last, tag, named, shape⟩ := slice.final form
  refine ⟨final, last, tag, named, ?_⟩
  have among : ∀ token ∈ path, token.InClass := by
    intro token member
    obtain ⟨before, after, split, -⟩ := slice.around
    refine (Token.settled_ofChars text).inClass token ?_
    rw [split]
    simp [member]
  -- A path without a separator is not cut, and any other is cut behind the last one.
  rcases shape with rfl | ⟨front, separator, blanks, none, between, rfl⟩
  · obtain ⟨colonless, slashless⟩ := Token.plain_joined among (by simp [tag])
    rw [lastSegment_of_plain colonless slashless, Token.joined_cons, Token.joined_nil,
      List.append_nil]
    rfl
  · have tags : ∀ token ∈ blanks ++ [final], token.tag = .identifier ∨ token.tag = .whitespace := by
      intro token member
      rcases List.mem_append.mp member with inside | only
      · exact .inr (Token.solid_eq_nil_iff.mp none token inside)
      · rw [List.mem_singleton.mp only]
        exact .inl tag
    obtain ⟨colonless, slashless⟩ := Token.plain_joined
      (fun token member => among token (by simp_all)) tags
    have cut := lastSegment_of_separator (among separator (by simp)) between (joined front)
      colonless slashless
    rw [Token.joined_append, Token.joined_cons, ← List.append_assoc, cut] at capital ⊢
    -- A blank behind the separator would stand where the capital letter is.
    rw [String.toList_ofList, Token.joined_append] at capital
    obtain rfl := Token.eq_nil_of_begins_upper (fun token member => among token (by simp [member]))
      none capital
    simp [Token.text]

namespace Pattern

/-- Identifiers with separators between them, and the piece of a text that they take up. -/
def WritesPath (source name : String) : Prop :=
  ∃ segments first last,
    Separated .pathSeparator NameForm (Lexeme.tokens (Lexeme.ofText source)) segments ∧
      (Lexeme.ofText source).head? = some first ∧ (Lexeme.ofText source).getLast? = some last ∧
      name = (first.span.cover last.span).slice source

/-- A text gives a type tag when it writes a path and the options know that by its name. -/
theorem parseWith_eq_typeTag_iff {options : PatternOptions} {source name : String} :
    parseWith options source = .ok (.typeTag name) ↔
      WritesPath source name ∧ options.isTypeName name = true := by
  -- A path was read to its end and is known, and a known path that is all is read.
  rw [parseWith_eq_ok_iff_readWhole, readWhole_eq_ok_iff_read]
  constructor
  · intro done
    cases lexemes : Lexeme.ofText source with
    | nil =>
      rw [lexemes] at done
      cases done
    | cons first rest =>
      rw [lexemes] at done
      simp only [read] at done
      cases tag : first.tag <;> simp only [tag] at done
      case identifier =>
        split at done
        · cases done
        · rename_i last behind path
          obtain ⟨named, found, same⟩ := map_eq_ok_iff.mp done
          cases same
          obtain ⟨inner, rfl, final, segments, form⟩ := path_of_readPath tag path
          obtain ⟨same, known⟩ := ofPath_eq_ok_iff.mp found
          cases same
          rw [List.append_nil] at lexemes
          rw [WritesPath, lexemes]
          exact ⟨⟨segments, first, last, form, rfl, final, rfl⟩, known⟩
      case leftBracket =>
        rcases readList_cases done with ⟨_, _, _, listed⟩ | ⟨_, _, listed⟩ <;> cases listed
      -- Nothing else that is read is a type tag.
      case underscore => cases done
      case leftParen | quotation | integer | float | unterminated =>
        obtain ⟨_, _, same⟩ := map_eq_ok_iff.mp done
        cases same
      all_goals cases done
  · rintro ⟨⟨segments, first, last, form, head, tail, rfl⟩, known⟩
    obtain ⟨rest, lexemes⟩ := List.head?_eq_some_iff.mp head
    rw [lexemes] at form tail
    obtain ⟨final, done, ends⟩ := readPath_of_path (.finish source) form first rest rfl
    obtain rfl : final = last := Option.some.inj (ends.symm.trans tail)
    have tag : first.tag = .identifier := by simpa using form.path_edges.1
    simp [lexemes, read, tag, done, ofPath_eq_ok_iff.mpr ⟨rfl, known⟩, Except.map]

end Pattern

/-- Unless type names are restricted, they are those whose last segment is capitalised. -/
theorem PatternOptions.isTypeName_default (name : String) :
    isTypeName {} name = begins Char.isUpper (lastSegment name).toList := by
  -- No other test is put to a name.
  unfold isTypeName
  cases (lastSegment name).toList <;> rfl

/-- A tag selects objects by the two names that it has. -/
theorem Pattern.match?_typeTag_object {name : String} {nominal : Nominal Value} :
    ((typeTag name).match? (.object nominal)).isSome = true ↔
      nominal.typeName = name ∨ nominal.typeName = lastSegment name := by
  -- The two names are those that the test for types compares with.
  simp [match?, matchBy?, selectsType, eq_comm (a := nominal.typeName)]

/--
A type tag selects objects by its whole text or by its last identifier, and by nothing else.

The text goes from the first identifier to the last one, blanks and separators between them
included. What is cut off behind its last separator is the last segment that was read, and that
begins with a capital letter.
-/
theorem Pattern.typeTag_selects_text_or_last_identifier {source name : String}
    (short : byteLength source.toList ≤ Span.limit) (done : parse source = .ok (.typeTag name)) :
    ∃ first last segments, (Lexeme.ofText source).head? = some first ∧
      (Lexeme.ofText source).getLast? = some last ∧ first.tag = .identifier ∧
      last.tag = .identifier ∧
      Separated .pathSeparator NameForm (Lexeme.tokens (Lexeme.ofText source)) segments ∧
      segments.getLast? = some last.text ∧
      name = (first.span.cover last.span).slice source ∧ lastSegment name = last.text ∧
      begins Char.isUpper last.text.toList = true ∧
      ∀ nominal, ((typeTag name).match? (.object nominal)).isSome = true ↔
        nominal.typeName = name ∨ nominal.typeName = last.text := by
  rw [parse, parseWith_eq_ok_iff_readWhole, readWhole_eq_ok_iff short] at done
  obtain ⟨form, -, known⟩ := done
  have capital := known name rfl
  rw [PatternOptions.isTypeName_default] at capital
  have tokens := Lexeme.tokens_ofText source
  -- Of all forms only a path makes a type tag.
  cases form with
  | @typeTag segments path form slice =>
    obtain ⟨final, ends, tag, named, cut⟩ := slice.lastSegment_eq form capital
    obtain ⟨first, last, head, tail, text⟩ := Lexeme.slice_of_pathSlice short slice
    rw [← tokens] at form ends
    -- The last token is that of the last lexeme.
    have same : last.token = final := by
      simpa [Lexeme.tokens, tail] using ends
    subst same
    rw [Lexeme.token_text] at cut named
    have starts := form.path_edges.1
    simp only [Lexeme.tokens, List.head?_map, head, Option.map_some] at starts
    refine ⟨first, last, segments, head, tail, Option.some.inj starts, tag, form, named, text.symm,
      cut, cut ▸ capital, fun nominal => ?_⟩
    rw [match?_typeTag_object, cut]

/-- A path with both separators and blanks before them selects its text and its last name. -/
theorem Pattern.typeTag_selects_text_or_last_identifier_of_mixed :
    let source := " Chemem \\Monads ::State "
    let name := "Chemem \\Monads ::State"
    let first : Lexeme := ⟨.identifier, "Chemem", ⟨1, 7⟩⟩
    let last : Lexeme := ⟨.identifier, "State", ⟨18, 23⟩⟩
    byteLength source.toList ≤ Span.limit ∧ parse source = .ok (.typeTag name) ∧
      (Lexeme.ofText source).head? = some first ∧ (Lexeme.ofText source).getLast? = some last ∧
      (first.span.cover last.span).slice source = name ∧ lastSegment name = "State" ∧
      ∀ nominal, ((typeTag name).match? (.object nominal)).isSome = true ↔
        nominal.typeName = name ∨ nominal.typeName = "State" := by
  intro source name first last
  have short : byteLength source.toList ≤ Span.limit := by decide
  have lexemes : Lexeme.ofText source = [first, ⟨.pathSeparator, "\\", ⟨8, 9⟩⟩,
      ⟨.identifier, "Monads", ⟨9, 15⟩⟩, ⟨.pathSeparator, "::", ⟨16, 18⟩⟩, last] := by
    decide +kernel
  have slice : Span.slice ⟨1, 23⟩ source = name := by decide +kernel
  have capital : PatternOptions.isTypeName {} name = true := by decide +kernel
  have done : parse source = .ok (.typeTag name) := by
    rw [parse, parseWith_eq_ok_iff_readWhole, readWhole_eq_ok_iff_read, lexemes]
    simp [read, readPath, ofPath, first, last, Span.cover, slice, capital, Except.map]
  obtain ⟨first', last', _, head, tail, _, _, _, _, text, cut, _, selected⟩ :=
    typeTag_selects_text_or_last_identifier short done
  obtain rfl : first = first' := by simpa [lexemes] using head
  obtain rfl : last = last' := by simpa [lexemes] using tail
  exact ⟨short, done, head, tail, text.symm, cut, selected⟩

end Motif
