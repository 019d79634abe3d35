import Motif.Pattern.Parse
import Motif.Proofs.Places

/-! Reading accepts exactly the lexemes that the grammar allows, with fresh names. -/

namespace Motif

/-- Names that a pattern may still bind: in lowercase, all different, and none of them taken. -/
def Fresh (taken names : List String) : Prop :=
  -- These are the checks of a name, asked of all names at once.
  (∀ name ∈ names, begins Char.isLower name.toList = true) ∧ names.Nodup ∧
    ∀ name ∈ names, name ∉ taken

/-- No name at all is always fresh. -/
@[simp] theorem fresh_nil (taken : List String) : Fresh taken [] := by
  simp [Fresh]

/-- Names are fresh one after another when each is fresh behind those before it. -/
theorem fresh_append {taken front back : List String} :
    Fresh taken (front ++ back) ↔ Fresh taken front ∧ Fresh (taken ++ front) back := by
  -- A name must differ from all before it, whether they were taken or just read.
  simp only [Fresh, List.mem_append, List.nodup_append]
  grind

/-- With nothing taken, freshness is about the names alone. -/
theorem fresh_of_nothing {names : List String} :
    Fresh [] names ↔ (∀ name ∈ names, begins Char.isLower name.toList = true) ∧ names.Nodup := by
  simp [Fresh]

namespace Lexeme

/-- A lexeme gives its own text as a name, if that is fresh. -/
theorem freshBinder_eq_ok_iff {taken : List String} {lexeme : Lexeme} {name : String} :
    lexeme.freshBinder taken = .ok name ↔ name = lexeme.text ∧ Fresh taken [lexeme.text] := by
  -- Both refusals are spelled out as parts of freshness.
  by_cases lower : begins Char.isLower lexeme.text.toList = true
  · by_cases known : lexeme.text ∈ taken
    · simp [freshBinder, Fresh, lower, known]
    · simp [freshBinder, Fresh, lower, known, eq_comm (a := name)]
  · simp [freshBinder, Fresh, lower]

/-- A lexeme of its class gives a literal only if its token writes that one. -/
theorem literalForm_of_literal {lexeme : Lexeme} {value : Literal} (own : lexeme.token.InClass)
    (done : lexeme.literal = .ok value) : LiteralForm [lexeme.token] value := by
  -- The tag decides which literal is meant, and whether the text is a numeral does the rest.
  unfold literal at done
  cases tag : lexeme.tag <;> simp only [tag] at done
  case quotation =>
    cases done
    -- The class says where the quotes stand, and that what they enclose is a body.
    simp only [Token.InClass, token_tag, tag] at own
    obtain ⟨mark, body, quote, inside, chars⟩ := own
    have text : unquote lexeme.text.toList = unescape body := by
      rw [← token_chars, chars, unquote_of_body (utf8Size_of_quote quote)]
    rw [text]
    exact .quoted tag quote chars inside inside.unescapes
  case integer =>
    split at done <;> cases done
    rename_i number
    exact .numeral (.inl tag) (by simpa using number)
  case float =>
    split at done <;> cases done
    rename_i number
    exact .numeral (.inr tag) (by simpa using number)
  -- Every other token is refused.
  all_goals cases done

/-- A lexeme gives the literal that its token writes. -/
theorem literal_of_form {lexeme : Lexeme} {value : Literal}
    (form : LiteralForm [lexeme.token] value) : lexeme.literal = .ok value := by
  cases form with
  | quoted tag quote chars inside stands =>
    -- Dropping the quotes leaves the body, and dropping its backslashes what it stands for.
    rw [token_tag] at tag
    rw [token_chars] at chars
    rw [literal, tag, chars]
    dsimp only
    rw [unquote_of_body (utf8Size_of_quote quote), stands.unescape_eq]
  | numeral tag number =>
    simp only [token_tag, token_text] at tag number
    rcases tag with tag | tag <;> simp [literal, tag, number]

end Lexeme

/-- What stands behind the opening parenthesis: heads with a colon behind each, tail and end. -/
inductive SegmentsForm : List Token → List String → Tail → Prop
  | last {final closing : Token} {tail : Tail} (ends : TailForm final tail)
      (closes : closing.tag = .rightParen) : SegmentsForm [final, closing] [] tail
  | more {head colon : Token} {rest : List Token} {heads : List String} {tail : Tail}
      (tag : head.tag = .identifier) (between : colon.tag = .colon)
      (others : SegmentsForm rest heads tail) :
      SegmentsForm (head :: colon :: rest) (head.text :: heads) tail

namespace SegmentsForm

/-- Names with colons between them become heads when one more colon and the tail follow. -/
theorem of_separated {front : List Token} {heads : List String} {colon final closing : Token}
    {tail : Tail} (names : Separated .colon NameForm front heads) (between : colon.tag = .colon)
    (ends : TailForm final tail) (closes : closing.tag = .rightParen) :
    SegmentsForm (front ++ [colon, final, closing]) heads tail := by
  -- Each name takes along the colon behind it, and the last colon goes to the tail.
  induction names with
  | one form =>
    cases form with
    | name tag => exact .more tag between (.last ends closes)
  | more form mark _ ih =>
    cases form with
    | name tag => exact .more tag mark ih

/-- The last colon among some heads and their tail is the one before the tail. -/
theorem exists_separated {tokens : List Token} {heads : List String} {tail : Tail}
    (form : SegmentsForm tokens heads tail) (some : heads ≠ []) :
    ∃ front colon final closing, tokens = front ++ [colon, final, closing] ∧
      Separated .colon NameForm front heads ∧ colon.tag = .colon ∧ TailForm final tail ∧
      closing.tag = .rightParen := by
  -- Colons are counted with the names before them, and the last one is set apart.
  induction form with
  | last => exact absurd rfl some
  | @more head colon rest heads tail tag between others ih =>
    -- Either the tail follows this head at once, or the other heads end before it.
    cases others with
    | last ends closes =>
      exact ⟨[head], colon, _, _, rfl, .one (.name tag), between, ends, closes⟩
    | more =>
      obtain ⟨front, last, final, closing, split, names, lastColon, ends, closes⟩ := ih (by simp)
      refine ⟨head :: colon :: front, last, final, closing, ?_, ?_, lastColon, ends, closes⟩
      · rw [split]
        rfl
      · exact .more (.name tag) between names

end SegmentsForm

/-- A cons pattern is an opening parenthesis with segments behind it, of which some are heads. -/
theorem consForm_iff {tokens : List Token} {parts : ConsPattern} :
    ConsForm tokens parts ↔ ∃ opening inner, tokens = opening :: inner ∧
      opening.tag = .leftParen ∧ SegmentsForm inner parts.heads parts.tail ∧ parts.heads ≠ [] := by
  -- The grammar groups heads by the colons between them, the reader by those behind them.
  constructor
  · intro form
    obtain ⟨opens, names, between, ends, closes⟩ := form
    refine ⟨_, _, rfl, opens, .of_separated names between ends closes, ?_⟩
    -- Names between marks are at least one.
    cases names <;> simp
  · intro given
    obtain ⟨opening, inner, rfl, opens, form, some⟩ := given
    obtain ⟨front, colon, final, closing, rfl, names, between, ends, closes⟩ :=
      form.exists_separated some
    exact .parts opens names between ends closes

namespace ConsPattern

/-- What is read behind the opening parenthesis are segments whose names are fresh. -/
theorem segments_of_read {finish : Lexeme} {taken heads : List String}
    {lexemes behind : List Lexeme} {parts : ConsPattern}
    (done : read finish taken heads lexemes = .ok (parts, behind)) :
    ∃ front names, lexemes = front ++ behind ∧
      SegmentsForm (Lexeme.tokens front) names parts.tail ∧ parts.heads = heads ++ names ∧
      parts.heads ≠ [] ∧ Fresh (taken ++ heads) (names ++ parts.tail.binders) := by
  -- Every round leaves the rest of the segments to the next, with one more head taken.
  fun_induction read finish taken heads lexemes with
  -- One more head was read, and the rest follows from there.
  | case6 heads segment named mark behind' colon notWild name fresh ih =>
    obtain ⟨front, names, split, form, own, some, others⟩ := ih done
    obtain ⟨rfl, first⟩ := Lexeme.freshBinder_eq_ok_iff.mp fresh
    have tag : segment.tag = .identifier := by simpa [notWild] using named
    refine ⟨segment :: mark :: front, segment.text :: names, ?_, ?_, ?_, some, ?_⟩
    · simp [split]
    · have form : SegmentsForm (segment.token :: mark.token :: Lexeme.tokens front)
          (segment.token.text :: names) parts.tail := .more tag colon form
      simpa using form
    · simp [own]
    · rw [List.cons_append, ← List.singleton_append, fresh_append]
      exact ⟨first, by simpa using others⟩
  -- The tail is an underscore.
  | case9 heads segment named mark behind' colon closes some wild =>
    cases done
    refine ⟨[segment, mark], [], rfl, .last (.wildcard wild) (by simpa using closes), ?_, ?_, ?_⟩
    · simp
    · simpa using some
    · simp [Tail.binders]
  -- The tail is a name.
  | case11 heads segment named mark behind' colon closes some notWild name fresh =>
    cases done
    obtain ⟨rfl, only⟩ := Lexeme.freshBinder_eq_ok_iff.mp fresh
    have tag : segment.tag = .identifier := by simpa [notWild] using named
    have ends : TailForm segment.token (.binder segment.token.text) := .binder tag
    rw [Lexeme.token_text] at ends
    refine ⟨[segment, mark], [], rfl, .last ends (by simpa using closes), ?_, ?_, ?_⟩
    · simp
    · simpa using some
    · simpa [Tail.binders] using only
  | _ => cases done

/-- Segments with fresh names are read, whatever stands behind them. -/
theorem read_of_segments {finish : Lexeme} {taken : List String} {tokens : List Token}
    {names : List String} {tail : Tail} (form : SegmentsForm tokens names tail) :
    ∀ (heads : List String) (front behind : List Lexeme), Lexeme.tokens front = tokens →
      heads ++ names ≠ [] → Fresh (taken ++ heads) (names ++ tail.binders) →
        read finish taken heads (front ++ behind) = .ok (⟨heads ++ names, tail⟩, behind) := by
  -- The heads read so far grow with every step, so they stay quantified over.
  induction form with
  | last ends closes =>
    intro heads front behind same some fresh
    obtain ⟨segment, rest, rfl, rfl, ending⟩ := Lexeme.exists_of_tokens_eq_cons same
    obtain ⟨mark, rfl, rfl⟩ := Lexeme.exists_of_tokens_eq_singleton ending
    cases ends with
    | binder tag =>
      have name := Lexeme.freshBinder_eq_ok_iff.mpr ⟨rfl, by simpa [Tail.binders] using fresh⟩
      simp only [Lexeme.token_tag] at tag closes
      simp_all [read]
    | wildcard tag => simp_all [read]
  | more tag between others ih =>
    intro heads front behind same some fresh
    obtain ⟨segment, rest, rfl, rfl, marked⟩ := Lexeme.exists_of_tokens_eq_cons same
    obtain ⟨mark, rest, rfl, rfl, following⟩ := Lexeme.exists_of_tokens_eq_cons marked
    rw [List.cons_append, ← List.singleton_append, fresh_append] at fresh
    have name := Lexeme.freshBinder_eq_ok_iff.mpr ⟨rfl, by simpa using fresh.1⟩
    have others := ih (heads ++ [segment.text]) rest behind following (by simp)
      (by simpa using fresh.2)
    simp only [Lexeme.token_tag] at tag between
    simp [read, tag, between, name, others]

/-- Reading behind the opening parenthesis takes exactly some segments with fresh names. -/
theorem read_eq_ok_iff {finish : Lexeme} {taken : List String} {lexemes behind : List Lexeme}
    {parts : ConsPattern} :
    read finish taken [] lexemes = .ok (parts, behind) ↔
      ∃ front, lexemes = front ++ behind ∧ parts.heads ≠ [] ∧
        SegmentsForm (Lexeme.tokens front) parts.heads parts.tail ∧ Fresh taken parts.binders := by
  -- Reading starts without heads, so all of them are among the segments.
  constructor
  · intro done
    obtain ⟨front, names, split, form, own, some, fresh⟩ := segments_of_read done
    obtain rfl : names = parts.heads := by simpa using own.symm
    exact ⟨front, split, some, form, by simpa [binders] using fresh⟩
  · intro given
    obtain ⟨front, rfl, some, form, fresh⟩ := given
    exact read_of_segments form [] front behind rfl (by simpa using some)
      (by simpa [binders] using fresh)

end ConsPattern

namespace Slot

/-- A slot that was read is written by the lexemes it took, with fresh names. -/
theorem form_of_read {finish : Lexeme} {taken : List String} {lexemes behind : List Lexeme}
    {slot : Slot} (own : ∀ lexeme ∈ lexemes, lexeme.token.InClass)
    (done : read finish taken lexemes = .ok (slot, behind)) :
    ∃ front, lexemes = front ++ behind ∧ SlotForm (Lexeme.tokens front) slot ∧
      Fresh taken slot.binders := by
  -- The first lexeme tells the kind of slot, and all but a cons pattern take no other.
  cases lexemes with
  | nil => cases done
  | cons first rest =>
    simp only [read] at done
    cases tag : first.tag <;> simp only [tag] at done
    case underscore =>
      cases done
      exact ⟨[first], rfl, .wildcard tag, fresh_nil _⟩
    case identifier =>
      obtain ⟨name, named, same⟩ := map_eq_ok_iff.mp done
      cases same
      obtain ⟨rfl, fresh⟩ := Lexeme.freshBinder_eq_ok_iff.mp named
      have form : NameForm [first.token] first.token.text := .name tag
      rw [Lexeme.token_text] at form
      exact ⟨[first], rfl, .binder form, fresh⟩
    case leftParen =>
      obtain ⟨⟨parts, after⟩, found, same⟩ := map_eq_ok_iff.mp done
      cases same
      obtain ⟨front, rfl, some, form, fresh⟩ := ConsPattern.read_eq_ok_iff.mp found
      exact ⟨first :: front, rfl, .cons (consForm_iff.mpr ⟨_, _, rfl, tag, form, some⟩), fresh⟩
    case quotation | integer | float | unterminated =>
      obtain ⟨value, written, same⟩ := map_eq_ok_iff.mp done
      cases same
      have form := Lexeme.literalForm_of_literal (own first (by simp)) written
      exact ⟨[first], rfl, .literal form, fresh_nil _⟩
    -- No other token begins a slot.
    all_goals cases done

/-- A slot with fresh names is read, whatever stands behind it. -/
theorem read_of_form {taken : List String} {tokens : List Token} {slot : Slot}
    {front : List Lexeme} (finish : Lexeme) (behind : List Lexeme) (form : SlotForm tokens slot)
    (same : Lexeme.tokens front = tokens) (fresh : Fresh taken slot.binders) :
    read finish taken (front ++ behind) = .ok (slot, behind) := by
  -- The tags of the form select the branch that the reader takes.
  cases form with
  | literal form =>
    -- Whichever token writes the literal, the slot reader hands it on.
    obtain ⟨token, rfl, tag⟩ := form.alone
    obtain ⟨first, rfl, rfl⟩ := Lexeme.exists_of_tokens_eq_singleton same
    have value := Lexeme.literal_of_form form
    rcases tag with tag | tag | tag <;> rw [Lexeme.token_tag] at tag <;>
      simp [read, tag, value, Except.map]
  | binder form =>
    obtain ⟨tag⟩ := form
    obtain ⟨first, rfl, rfl⟩ := Lexeme.exists_of_tokens_eq_singleton same
    have name := Lexeme.freshBinder_eq_ok_iff.mpr ⟨rfl, by simpa [binders] using fresh⟩
    simp only [Lexeme.token_tag] at tag
    simp [read, tag, name, Except.map]
  | wildcard tag =>
    obtain ⟨first, rfl, rfl⟩ := Lexeme.exists_of_tokens_eq_singleton same
    simp only [Lexeme.token_tag] at tag
    simp [read, tag]
  | cons form =>
    obtain ⟨opening, inner, rfl, tag, segments, some⟩ := consForm_iff.mp form
    obtain ⟨first, rest, rfl, rfl, rfl⟩ := Lexeme.exists_of_tokens_eq_cons same
    have parts : ConsPattern.read finish taken [] (rest ++ behind) = .ok (_, behind) :=
      ConsPattern.read_eq_ok_iff.mpr ⟨rest, rfl, some, segments, fresh⟩
    simp only [Lexeme.token_tag] at tag
    simp [read, tag, parts, Except.map]

/-- Slots that were read are written up to a closing bracket, with fresh names. -/
theorem forms_of_readAll {finish : Lexeme} {taken : List String} {lexemes behind : List Lexeme}
    {slots : List Slot} (own : ∀ lexeme ∈ lexemes, lexeme.token.InClass)
    (done : readAll finish taken lexemes = .ok (slots, behind)) :
    ∃ front closing, lexemes = front ++ closing :: behind ∧ closing.tag = .rightBracket ∧
      Separated .comma SlotForm (Lexeme.tokens front) slots ∧
      Fresh taken (slots.flatMap binders) := by
  -- A comma leads to further slots, whose names differ from those read before.
  fun_induction readAll finish taken lexemes generalizing slots with
  | case3 taken lexemes slot mark rest found comma ih =>
    obtain ⟨⟨others, after⟩, following, same⟩ := map_eq_ok_iff.mp done
    cases same
    obtain ⟨front, rfl, form, fresh⟩ := form_of_read own found
    have later := (List.forall_mem_cons.mp (List.forall_mem_append.mp own).2).2
    obtain ⟨inner, closing, rfl, closes, forms, distinct⟩ := ih later following
    refine ⟨front ++ mark :: inner, closing, by simp, closes, ?_, ?_⟩
    · have forms : Separated .comma SlotForm (Lexeme.tokens front ++ mark.token ::
          Lexeme.tokens inner) (slot :: others) := .more form comma forms
      simpa using forms
    · rw [List.flatMap_cons, fresh_append]
      exact ⟨fresh, distinct⟩
  | case4 taken lexemes slot mark rest found comma closes =>
    cases done
    obtain ⟨front, rfl, form, fresh⟩ := form_of_read own found
    exact ⟨front, mark, rfl, closes, .one form, by simpa using fresh⟩
  | _ => cases done

/-- Where the first slot cannot be read, no slots can. -/
theorem readAll_of_error {finish : Lexeme} {taken : List String} {lexemes : List Lexeme}
    {rejection : PatternRejection} (first : read finish taken lexemes = .error rejection) :
    readAll finish taken lexemes = .error rejection := by
  -- The first slot is read before anything else is looked at.
  rw [readAll]
  split <;> simp_all

/-- After a slot the mark behind it tells whether more slots follow. -/
theorem readAll_of_read {finish mark : Lexeme} {taken : List String} {lexemes rest : List Lexeme}
    {slot : Slot} (first : read finish taken lexemes = .ok (slot, mark :: rest)) :
    readAll finish taken lexemes =
      if mark.tag = .comma then
        (readAll finish (taken ++ slot.binders) rest).map fun (slots, after) =>
          (slot :: slots, after)
      else if mark.tag = .rightBracket then .ok ([slot], rest)
      else .error (mark.unexpected "`,` or `]`") := by
  -- The other outcomes of reading the first slot are not the one at hand.
  rw [readAll]
  split <;> simp_all

/-- Slots with fresh names are read up to their closing bracket, whatever stands behind it. -/
theorem readAll_of_forms {closing : Lexeme} {tokens : List Token} {slots : List Slot}
    (finish : Lexeme) (behind : List Lexeme) (closes : closing.tag = .rightBracket)
    (forms : Separated .comma SlotForm tokens slots) :
    ∀ (taken : List String) (front : List Lexeme), Lexeme.tokens front = tokens →
      Fresh taken (slots.flatMap binders) →
        readAll finish taken (front ++ closing :: behind) = .ok (slots, behind) := by
  -- What is taken grows from slot to slot.
  induction forms with
  | one form =>
    intro taken front same fresh
    have first := read_of_form finish (closing :: behind) form same
      (by simpa using fresh)
    simp [readAll_of_read first, closes]
  | more form between others ih =>
    intro taken front same fresh
    rw [List.flatMap_cons, fresh_append] at fresh
    obtain ⟨before, after, rfl, own, marked⟩ := Lexeme.exists_of_tokens_eq_append same
    obtain ⟨mark, rest, rfl, rfl, following⟩ := Lexeme.exists_of_tokens_eq_cons marked
    have first := read_of_form finish (mark :: (rest ++ closing :: behind)) form own
      fresh.1
    have following := ih _ rest following fresh.2
    simp only [Lexeme.token_tag] at between
    simp [readAll_of_read first, between, following, Except.map]

end Slot

/-- A path begins and ends with an identifier. -/
theorem Separated.path_edges {tokens : List Token} {segments : List String}
    (form : Separated .pathSeparator NameForm tokens segments) :
    tokens.head?.map Token.tag = some .identifier ∧
      tokens.getLast?.map Token.tag = some .identifier := by
  -- The first segment begins the path, and the last one ends it.
  induction form with
  | one form =>
    obtain ⟨tag⟩ := form
    simp [tag]
  | more form _ _ ih =>
    obtain ⟨tag⟩ := form
    refine ⟨by simp [tag], ?_⟩
    -- The path behind the separator is not empty, so it has the last identifier.
    obtain ⟨last, final, tag⟩ := Option.map_eq_some_iff.mp ih.2
    simp [List.getLast?_cons, final, tag]

namespace Pattern

/-- A path that was read has its first and last segment at its ends. -/
theorem path_of_readPath {finish first last : Lexeme} {lexemes behind : List Lexeme}
    (named : first.tag = .identifier)
    (done : readPath finish first lexemes = .ok (last, behind)) :
    ∃ path, lexemes = path ++ behind ∧ (first :: path).getLast? = some last ∧
      ∃ segments, Separated .pathSeparator NameForm (Lexeme.tokens (first :: path)) segments := by
  -- Each round goes from one segment over a separator to the next.
  fun_induction readPath finish first lexemes with
  | case2 | case5 => cases done
  | case1 first | case3 first mark other | case4 first mark segment rest other =>
    cases done
    exact ⟨[], rfl, rfl, _, .one (.name named)⟩
  | case6 first mark segment rest separates identifier ih =>
    have tag : segment.tag = .identifier := Decidable.not_not.mp identifier
    obtain ⟨path, rfl, final, segments, form⟩ := ih tag done
    have front : NameForm [first.token] first.token.text := .name named
    have between : mark.token.tag = .pathSeparator := Decidable.not_not.mp separates
    have whole := Separated.more front between form
    exact ⟨mark :: segment :: path, rfl, by simpa using final, _, whole⟩

/-- A path up to the end is read, and its last segment is what reading gives. -/
theorem readPath_of_path (finish : Lexeme) {tokens : List Token} {segments : List String}
    (form : Separated .pathSeparator NameForm tokens segments) :
    ∀ (first : Lexeme) (rest : List Lexeme), Lexeme.tokens (first :: rest) = tokens →
      ∃ last, readPath finish first rest = .ok (last, []) ∧
        (first :: rest).getLast? = some last := by
  -- The path is read from its front, so the segment that was read last changes.
  induction form with
  | one form =>
    obtain ⟨tag⟩ := form
    intro first rest same
    obtain ⟨lexeme, only, _⟩ := Lexeme.exists_of_tokens_eq_singleton same
    obtain ⟨rfl, rfl⟩ := List.cons.inj only
    exact ⟨first, rfl, rfl⟩
  | more form between others ih =>
    obtain ⟨tag⟩ := form
    intro first rest same
    obtain ⟨lexeme, marked, split, rfl, following⟩ := Lexeme.exists_of_tokens_eq_cons same
    obtain ⟨rfl, rfl⟩ := List.cons.inj split
    obtain ⟨mark, path, rfl, rfl, rfl⟩ := Lexeme.exists_of_tokens_eq_cons following
    -- The path behind the separator has a first segment, which is an identifier.
    cases path with
    | nil => simpa using others.path_edges.1
    | cons segment behind =>
      have named : segment.tag = .identifier := by simpa using others.path_edges.1
      obtain ⟨last, done, final⟩ := ih segment behind rfl
      refine ⟨last, ?_, by simpa using final⟩
      simp only [Lexeme.token_tag] at between
      simp [readPath, between, named, done]

/-- The type tag of a path is named by its slice, which has to be the name of a type. -/
theorem ofPath_eq_ok_iff {options : PatternOptions} {source : String} {first last : Lexeme}
    {pattern : Pattern} :
    ofPath options source first last = .ok pattern ↔
      pattern = .typeTag ((first.span.cover last.span).slice source) ∧
        options.isTypeName ((first.span.cover last.span).slice source) = true := by
  -- Whether the name is known decides between the tag and the refusal.
  simp only [ofPath]
  split
  · rename_i known
    simp [known, eq_comm]
  · rename_i unknown
    simp [unknown]

/-- A list that was read was closed at once, or else it has slots. -/
theorem readList_cases {finish : Lexeme} {lexemes behind : List Lexeme} {pattern : Pattern}
    (done : readList finish lexemes = .ok (pattern, behind)) :
    (∃ closing, closing.tag = .rightBracket ∧ lexemes = closing :: behind ∧ pattern = .list []) ∨
      ∃ slots, Slot.readAll finish [] lexemes = .ok (slots, behind) ∧ pattern = .list slots := by
  cases lexemes with
  | nil =>
    obtain ⟨result, found, same⟩ := map_eq_ok_iff.mp done
    cases same
    exact .inr ⟨result.1, found, rfl⟩
  | cons first rest =>
    -- Only a closing bracket in the first place makes a list without slots.
    by_cases closes : first.tag = .rightBracket
    · rw [readList, if_pos closes] at done
      cases done
      exact .inl ⟨first, closes, rfl, rfl⟩
    · rw [readList, if_neg closes] at done
      obtain ⟨result, found, same⟩ := map_eq_ok_iff.mp done
      cases same
      exact .inr ⟨result.1, found, rfl⟩

/-- A list that was read is in brackets, and its names are fresh. -/
theorem listForm_of_readList {finish opening : Lexeme} {lexemes behind : List Lexeme}
    {pattern : Pattern} (opens : opening.tag = .leftBracket)
    (own : ∀ lexeme ∈ lexemes, lexeme.token.InClass)
    (done : readList finish lexemes = .ok (pattern, behind)) :
    ∃ front slots, lexemes = front ++ behind ∧ pattern = .list slots ∧
      ListForm (Lexeme.tokens (opening :: front)) slots ∧
      Fresh [] (slots.flatMap Slot.binders) := by
  rcases readList_cases done with ⟨closing, closes, rfl, rfl⟩ | ⟨slots, found, rfl⟩
  · exact ⟨[closing], [], rfl, rfl, .empty opens closes, fresh_nil _⟩
  · obtain ⟨inner, closing, rfl, closes, forms, fresh⟩ := Slot.forms_of_readAll own found
    have form : ListForm (opening.token :: (Lexeme.tokens inner ++ [closing.token])) slots :=
      .slots opens forms closes
    exact ⟨inner ++ [closing], slots, by simp, rfl, by simpa using form, fresh⟩

/-- A list in brackets with fresh names is read to the end. -/
theorem readList_of_listForm (finish : Lexeme) {opening : Lexeme} {tokens : List Token}
    {lexemes : List Lexeme} {slots : List Slot} (form : ListForm tokens slots)
    (same : Lexeme.tokens (opening :: lexemes) = tokens)
    (fresh : Fresh [] (slots.flatMap Slot.binders)) :
    readList finish lexemes = .ok (.list slots, []) := by
  -- Without slots the list is closed at once, and with slots the first is read before that.
  cases form with
  | empty opens closes =>
    obtain ⟨_, rest, split, _, ends⟩ := Lexeme.exists_of_tokens_eq_cons same
    obtain ⟨_, rfl⟩ := List.cons.inj split
    obtain ⟨closing, rfl, rfl⟩ := Lexeme.exists_of_tokens_eq_singleton ends
    simp only [Lexeme.token_tag] at closes
    simp [readList, closes]
  | slots opens forms closes =>
    obtain ⟨_, rest, split, _, ends⟩ := Lexeme.exists_of_tokens_eq_cons same
    obtain ⟨_, rfl⟩ := List.cons.inj split
    obtain ⟨inner, last, rfl, own, ends⟩ := Lexeme.exists_of_tokens_eq_append ends
    obtain ⟨closing, rfl, rfl⟩ := Lexeme.exists_of_tokens_eq_singleton ends
    have done := Slot.readAll_of_forms finish [] closes forms [] inner own fresh
    -- A bracket that closed the list at once could not have been read as a slot.
    cases lexemes : inner ++ [closing] with
    | nil => simp at lexemes
    | cons first rest =>
      rw [lexemes] at done
      by_cases shut : first.tag = .rightBracket
      · have refused : ∃ rejection, Slot.read finish [] (first :: rest) = .error rejection := by
          simp [Slot.read, shut]
        obtain ⟨rejection, refused⟩ := refused
        rw [Slot.readAll_of_error refused] at done
        cases done
      · simp [readList, shut, done, Except.map]

/-- What a pattern promises besides its form: fresh names, and a tag that names a type. -/
def Admitted (options : PatternOptions) (pattern : Pattern) : Prop :=
  -- Neither follows from the tokens alone.
  Fresh [] pattern.binders ∧ ∀ name, pattern = .typeTag name → options.isTypeName name = true

/-- A whole text is read when nothing is left behind the pattern. -/
theorem readWhole_eq_ok_iff_read {options : PatternOptions} {source : String} {pattern : Pattern} :
    readWhole options source = .ok pattern ↔
      read options source (.finish source) (Lexeme.ofText source) = .ok (pattern, []) := by
  -- A pattern with something behind it is refused, and every other result is handed on.
  unfold readWhole
  split <;> simp_all

/-- A pattern that was read from a whole text is written by its tokens, and admitted. -/
theorem form_of_read {options : PatternOptions} {source : String} {pattern : Pattern}
    (short : ∀ name, pattern = .typeTag name → byteLength source.toList ≤ Span.limit)
    (done : read options source (.finish source) (Lexeme.ofText source) = .ok (pattern, [])) :
    PatternForm (Token.ofChars source.toList) pattern ∧ pattern.Admitted options := by
  -- The first lexeme selects the form, and nothing may be left behind it.
  have tokens := Lexeme.tokens_ofText source
  have own {lexeme : Lexeme} (member : lexeme ∈ Lexeme.ofText source) :=
    Lexeme.inClass_of_mem member
  cases lexemes : Lexeme.ofText source with
  | nil =>
    rw [lexemes] at done
    cases done
  | cons first rest =>
    rw [lexemes] at done tokens own
    simp only [read] at done
    cases tag : first.tag <;> simp only [tag] at done
    case underscore =>
      cases done
      exact ⟨.wildcard tokens.symm tag, by simp [binders], by simp⟩
    case leftParen =>
      obtain ⟨⟨parts, behind⟩, found, same⟩ := map_eq_ok_iff.mp done
      cases same
      obtain ⟨front, rfl, some, form, fresh⟩ := ConsPattern.read_eq_ok_iff.mp found
      rw [List.append_nil] at tokens
      exact ⟨.cons (consForm_iff.mpr ⟨_, _, tokens.symm, tag, form, some⟩), fresh, by simp⟩
    case leftBracket =>
      obtain ⟨front, slots, rfl, rfl, form, fresh⟩ := listForm_of_readList tag
        (fun lexeme member => own (.tail _ member)) done
      rw [List.append_nil] at tokens
      exact ⟨.list (tokens ▸ form), fresh, by simp⟩
    case identifier =>
      split at done
      · cases done
      · rename_i last behind path
        obtain ⟨named, found, same⟩ := map_eq_ok_iff.mp done
        cases same
        obtain ⟨inner, rfl, final, segments, form⟩ := path_of_readPath tag path
        rw [List.append_nil] at tokens lexemes
        rw [tokens] at form
        -- The path stands between the first and the last token that is not blank.
        obtain ⟨slice, inside⟩ := exists_pathSlice form.path_edges.1 form.path_edges.2
        obtain ⟨rfl, known⟩ := ofPath_eq_ok_iff.mp found
        obtain ⟨head, tail, starts, ends, text⟩ := Lexeme.slice_of_pathSlice (short _ rfl) inside
        rw [lexemes] at starts ends
        obtain ⟨rfl, rfl⟩ : first = head ∧ last = tail := by simp_all
        rw [text] at known ⊢
        exact ⟨.typeTag form inside, by simp [binders], by simpa using known⟩
    case quotation | integer | float | unterminated =>
      obtain ⟨value, written, same⟩ := map_eq_ok_iff.mp done
      cases same
      have form := Lexeme.literalForm_of_literal (own (by simp)) written
      exact ⟨.literal (tokens ▸ form), by simp [binders], by simp⟩
    -- No other token begins a pattern.
    all_goals cases done

/-- A pattern that the tokens of a whole text write is read from it, if it is admitted. -/
theorem read_of_form {options : PatternOptions} {source : String} {pattern : Pattern}
    (short : byteLength source.toList ≤ Span.limit)
    (form : PatternForm (Token.ofChars source.toList) pattern)
    (admitted : pattern.Admitted options) :
    read options source (.finish source) (Lexeme.ofText source) = .ok (pattern, []) := by
  -- The form tells the first lexeme, and that leads to the reader of the form.
  obtain ⟨fresh, known⟩ := admitted
  have tokens := Lexeme.tokens_ofText source
  cases form with
  | wildcard alone tag =>
    obtain ⟨first, lexemes, rfl⟩ := Lexeme.exists_of_tokens_eq_singleton (tokens.trans alone)
    simp only [Lexeme.token_tag] at tag
    simp [lexemes, read, tag]
  | literal form =>
    obtain ⟨token, alone, tag⟩ := form.alone
    obtain ⟨first, lexemes, rfl⟩ := Lexeme.exists_of_tokens_eq_singleton (tokens.trans alone)
    rw [alone] at form
    have value := Lexeme.literal_of_form form
    rcases tag with tag | tag | tag <;> rw [Lexeme.token_tag] at tag <;>
      simp [lexemes, read, tag, value, Except.map]
  | cons form =>
    obtain ⟨opening, inner, split, tag, segments, some⟩ := consForm_iff.mp form
    obtain ⟨first, rest, lexemes, rfl, rfl⟩ := Lexeme.exists_of_tokens_eq_cons (tokens.trans split)
    have parts : ConsPattern.read (.finish source) [] [] rest = .ok (_, []) :=
      ConsPattern.read_eq_ok_iff.mpr ⟨rest, by simp, some, segments, fresh⟩
    simp only [Lexeme.token_tag] at tag
    simp [lexemes, read, tag, parts, Except.map]
  | list form =>
    rw [← tokens] at form
    obtain ⟨opening, inner, split, tag⟩ := form.opens
    obtain ⟨first, rest, lexemes, rfl, rfl⟩ := Lexeme.exists_of_tokens_eq_cons split
    rw [lexemes] at form ⊢
    have slots := readList_of_listForm (.finish source) form rfl fresh
    simp only [Lexeme.token_tag] at tag
    simp [read, tag, slots]
  | typeTag form slice =>
    obtain ⟨head, last, starts, ends, text⟩ := Lexeme.slice_of_pathSlice short slice
    obtain ⟨rest, lexemes⟩ := List.head?_eq_some_iff.mp starts
    rw [← tokens, lexemes] at form
    obtain ⟨final, done, same⟩ := readPath_of_path (.finish source) form head rest rfl
    have tag : head.tag = .identifier := by simpa using form.path_edges.1
    -- The last segment that was read is the last lexeme of the text.
    obtain rfl : final = last := by simp_all
    have named := ofPath_eq_ok_iff.mpr ⟨rfl, text.symm ▸ known _ rfl⟩
    rw [text] at named
    simp [lexemes, read, tag, done, named, Except.map]

/-- A text is a pattern exactly when its tokens write that pattern and it is admitted. -/
theorem readWhole_eq_ok_iff {options : PatternOptions} {source : String} {pattern : Pattern}
    (short : byteLength source.toList ≤ Span.limit) :
    readWhole options source = .ok pattern ↔
      PatternForm (Token.ofChars source.toList) pattern ∧ pattern.Admitted options := by
  -- Either direction goes through the reader, which has to use up all lexemes.
  rw [readWhole_eq_ok_iff_read]
  exact ⟨form_of_read fun _ _ => short, fun ⟨form, admitted⟩ => read_of_form short form admitted⟩

/-- Wrapping up a rejection does not change which patterns are read. -/
theorem parseWith_eq_ok_iff_readWhole {options : PatternOptions} {source : String}
    {pattern : Pattern} :
    parseWith options source = .ok pattern ↔ readWhole options source = .ok pattern := by
  -- Only rejections are wrapped up, and a pattern is none.
  unfold parseWith
  cases readWhole options source <;> simp [Except.mapError]

/-- However long a text is, its tokens write the pattern that is read, unless it is a type tag. -/
theorem form_of_parseWith {options : PatternOptions} {source : String} {pattern : Pattern}
    (done : parseWith options source = .ok pattern) (untagged : ∀ name, pattern ≠ .typeTag name) :
    PatternForm (Token.ofChars source.toList) pattern ∧ pattern.Admitted options := by
  -- Places matter to type tags alone.
  rw [parseWith_eq_ok_iff_readWhole, readWhole_eq_ok_iff_read] at done
  exact form_of_read (fun name tagged => absurd tagged (untagged name)) done

/-- Except for a type tag, the names that a pattern binds are the identifiers of its text. -/
theorem names_of_parseWith {options : PatternOptions} {source : String} {pattern : Pattern}
    (done : parseWith options source = .ok pattern) (untagged : ∀ name, pattern ≠ .typeTag name) :
    Token.names (Token.ofChars source.toList) = pattern.binders :=
  (form_of_parseWith done untagged).1.names_eq untagged

/--
Parsing accepts exactly the grammar.

A pattern comes out of a text when the tokens before the end write it, its names are in lowercase
and all different, and its type tag, if it is one, names a type under the options.
-/
theorem parseWith_eq_ok_iff_grammar {options : PatternOptions} {source : String}
    {pattern : Pattern} (short : byteLength source.toList ≤ Span.limit) :
    parseWith options source = .ok pattern ↔
      PatternForm (Token.tokenize source).dropLast pattern ∧
        (∀ name ∈ pattern.binders, begins Char.isLower name.toList = true) ∧
        pattern.binders.Nodup ∧
        ∀ name, pattern = .typeTag name → options.isTypeName name = true := by
  -- The token behind the text is not part of the grammar, and nothing is taken at first.
  have tokens : (Token.tokenize source).dropLast = Token.ofChars source.toList := by
    simp [Token.tokenize]
  rw [parseWith_eq_ok_iff_readWhole, readWhole_eq_ok_iff short, tokens, Admitted,
    fresh_of_nothing, and_assoc]

/-- A cons pattern and a text with an escape are read, blanks and all, as the grammar has it. -/
theorem parseWith_eq_ok_iff_grammar_of_nested :
    let source := "[ (x : _), 'it\\'s \\n']"
    let pattern : Pattern := .list [.cons ⟨["x"], .wildcard⟩, .literal (.quoted "it's n")]
    byteLength source.toList ≤ Span.limit ∧ parseWith {} source = .ok pattern ∧
      PatternForm (Token.tokenize source).dropLast pattern := by
  intro source pattern
  have short : byteLength source.toList ≤ Span.limit := by decide
  have done : parseWith {} source = .ok pattern := by cbv
  exact ⟨short, done, ((parseWith_eq_ok_iff_grammar short).mp done).1⟩

end Pattern

end Motif
