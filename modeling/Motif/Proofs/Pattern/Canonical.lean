import Motif.Proofs.Pattern.WellFormed

/-!
The canonical text of a well-formed pattern falls into tokens that write the pattern.

Whatever stands behind a part of the text there ends its last token: a mark, or nothing at all.
-/

namespace Motif

open Token (Settled joined solid)

/-- A text that begins with one of the marks that stand behind parts of a pattern, if at all. -/
def AtMark (text : List Char) : Prop :=
  -- The end of the text counts as a mark, so that a whole text may end in any part.
  ∀ first, text.head? = some first → first ∈ [':', ',', ')', ']']

/-- The end of a text ends what stands before it. -/
@[simp] theorem atMark_nil : AtMark [] := by
  simp [AtMark]

/-- Only the first character tells whether a text begins with a mark. -/
@[simp] theorem atMark_cons {first : Char} {rest : List Char} :
    AtMark (first :: rest) ↔ first ∈ [':', ',', ')', ']'] := by
  -- The head of the list is its first character.
  simp [AtMark]

/-- A text at a mark does not begin with what no mark is. -/
theorem AtMark.begins_eq_false {test : Char → Bool} {text : List Char} (mark : AtMark text)
    (none : [':', ',', ')', ']'].any test = false) : begins test text = false := by
  -- Either nothing is there to pass the test, or a mark, which fails it.
  cases text with
  | nil => rfl
  | cons first rest =>
    show test first = false
    simpa using List.any_eq_false.mp none first (mark first rfl)

/-- What begins with a character of one kind does not begin with one of another. -/
theorem begins_eq_false_of_begins {own other : Char → Bool} {text : List Char}
    (starts : begins own text = true) (apart : ∀ char, own char = true → other char = false) :
    begins other text = false := by
  -- The text has a first character, and that one is of the first kind.
  cases text with
  | nil => rfl
  | cons first rest => exact apart first starts

namespace Token

/-- Names, underscores and literals end at every mark. -/
theorem stopsBefore_of_atMark {token : Token} {behind : List Char} (mark : AtMark behind)
    (item : token.tag ∈ [.underscore, .identifier, .integer, .float, .quotation]) :
    token.StopsBefore behind := by
  -- No mark is a digit, and none can stand inside an identifier.
  have notInside : begins isIdentifierRest behind = false := mark.begins_eq_false (by decide)
  have notDigit : begins Char.isDigit behind = false := mark.begins_eq_false (by decide)
  simp only [List.mem_cons, List.not_mem_nil, or_false] at item
  rcases item with tag | tag | tag | tag | tag <;> simp only [StopsBefore, tag]
  · exact notInside
  · exact notInside
  · refine ⟨notDigit, ?_⟩
    -- No mark is a point, so nothing follows that could be a fraction.
    intro digit rest same
    simp [same] at mark
  · exact notDigit

/-- Identifiers and underscores begin with a letter or an underscore. -/
theorem InClass.begins_identifierStart {token : Token} (own : token.InClass)
    (named : token.tag = .identifier ∨ token.tag = .underscore) (behind : List Char) :
    begins isIdentifierStart (token.chars ++ behind) = true := by
  -- The class tells the first character, or at least what it may be.
  rcases named with tag | tag <;> simp only [InClass, tag] at own
  · obtain ⟨first, rest, chars, start, _⟩ := own
    rw [chars]
    exact isIdentifierStart_iff.mpr start
  · rw [own]
    rfl

/-- Settled tokens do not begin with a blank when the first of them is none. -/
theorem Settled.begins_blank {token : Token} {rest : List Token} {behind : List Char}
    (settled : Settled behind (token :: rest)) (visible : token.tag ≠ .whitespace) :
    begins isBlank (joined (token :: rest) ++ behind) = false := by
  -- The scanner would have taken a blank in front for the whole token.
  obtain ⟨own, stops, _⟩ := settled
  obtain ⟨first, chars, start⟩ := List.exists_cons_of_ne_nil own.chars_ne_nil
  have text : token.chars ++ (joined rest ++ behind) =
      first :: (chars ++ (joined rest ++ behind)) := by
    rw [start, List.cons_append]
  have read := scan_of_class text own stops
  rw [joined_cons, List.append_assoc, text]
  cases blank : isBlank first with
  | false => exact blank
  | true =>
    -- From a blank the scanner would have read a run of blanks instead.
    rw [scan_blank _ blank] at read
    exact absurd (congrArg (Token.tag ∘ Prod.fst) read).symm visible

end Token

/-- Tokens without blanks that cover a text, the last of which ends at any mark. -/
structure Covers (tokens : List Token) (chars : List Char) : Prop where
  joined : joined tokens = chars
  settled : ∀ behind, AtMark behind → Settled behind tokens
  solid : solid tokens = tokens

namespace Covers

/-- No token covers no text. -/
theorem nil : Covers [] [] := ⟨rfl, fun _ _ => trivial, rfl⟩

/-- One more token in front covers its characters too. -/
theorem cons {token : Token} {tokens : List Token} {chars : List Char} (own : token.InClass)
    (visible : token.tag ≠ .whitespace) (rest : Covers tokens chars)
    (stops : ∀ behind, AtMark behind → token.StopsBefore (chars ++ behind)) :
    Covers (token :: tokens) (token.chars ++ chars) := by
  -- Only the token in front has something new to end before.
  refine ⟨by rw [Token.joined_cons, rest.joined], ?_, ?_⟩
  · intro behind mark
    refine ⟨own, ?_, rest.settled behind mark⟩
    rw [rest.joined]
    exact stops behind mark
  · rw [Token.solid, List.filter_cons_of_pos (by simpa using visible)]
    exact congrArg _ rest.solid

/-- A name, an underscore or a literal covers its characters by itself. -/
theorem single {token : Token} (own : token.InClass)
    (item : token.tag ∈ [.underscore, .identifier, .integer, .float, .quotation]) :
    Covers [token] token.chars := by
  -- Such a token ends at a mark by itself, and it is no blank.
  have visible : token.tag ≠ .whitespace := by
    intro blank
    simp [blank] at item
  have whole := cons own visible nil fun behind mark => Token.stopsBefore_of_atMark mark item
  rwa [List.append_nil] at whole

/-- A covered text does not begin with a blank. -/
theorem begins_blank {tokens : List Token} {chars behind : List Char} (covers : Covers tokens chars)
    (some : tokens ≠ []) (mark : AtMark behind) : begins isBlank (chars ++ behind) = false := by
  -- The first token begins the text, and it is not a blank.
  obtain ⟨first, rest, rfl⟩ := List.exists_cons_of_ne_nil some
  rw [← covers.joined]
  refine (covers.settled behind mark).begins_blank ?_
  have visible := List.filter_eq_self.mp covers.solid first (List.mem_cons_self ..)
  simpa using visible

end Covers

/-- The identifier for a name. -/
def Token.ofName (name : String) : Token := ⟨.identifier, name.toList⟩

/-- An identifier for a name has that name. -/
@[simp] theorem Token.text_ofName (name : String) : (ofName name).text = name :=
  String.ofList_toList

/-- A bound name is an identifier. -/
theorem IsBinder.inClass {name : String} (binder : IsBinder name) :
    (Token.ofName name).InClass := by
  -- A lowercase letter may begin an identifier, and it is not an underscore.
  obtain ⟨first, rest, chars, lower, all⟩ := binder
  refine ⟨first, rest, chars, .inl (.inl lower), all, ?_⟩
  intro same
  obtain ⟨rfl, -⟩ := List.cons.inj (chars.symm.trans same)
  exact absurd (isLower_iff.mpr lower) (by decide)

/-- A bound name is covered by one identifier, which writes it. -/
theorem IsBinder.exists_covers {name : String} (binder : IsBinder name) :
    ∃ tokens, Covers tokens name.toList ∧ NameForm tokens name := by
  -- The token has the characters of the name and so the name as its text.
  have form : NameForm [Token.ofName name] (Token.ofName name).text := .name rfl
  rw [Token.text_ofName] at form
  exact ⟨_, .single binder.inClass (by simp [Token.ofName]), form⟩

/-- A well-formed literal is covered by one token, which writes it. -/
theorem Literal.WellFormed.exists_covers {literal : Literal} (sound : literal.WellFormed) :
    ∃ tokens, Covers tokens literal.chars ∧ LiteralForm tokens literal := by
  -- A quotation ends at its own quote, and a number before any mark.
  rcases sound with ⟨text, rfl⟩ | ⟨text, number⟩
  · have own : Token.InClass ⟨.quotation, quote text.toList⟩ :=
      ⟨'"', escapeQuotes text.toList, .inl rfl, quotedBody_escapeQuotes _, rfl⟩
    have stands := (quotedBody_escapeQuotes text.toList).unescapes
    rw [unescape_escapeQuotes] at stands
    have form : LiteralForm [⟨.quotation, quote text.toList⟩] (.quoted (.ofList text.toList)) :=
      .quoted rfl (.inl rfl) rfl (quotedBody_escapeQuotes _) stands
    rw [String.ofList_toList] at form
    exact ⟨_, .single own (by simp), form⟩
  · -- A numeral is shown as it was written, which its form tells to be an integer or a float.
    have written {tag : TokenTag} (kind : tag = .integer ∨ tag = .float) :
        LiteralForm [⟨tag, text.toList⟩] literal :=
      .numeral kind (by simpa [Token.text] using number)
    obtain ⟨numeral, read, rfl⟩ := Literal.numeral?_eq_some_iff.mp number
    rcases Numeral.chars_of_ofChars? read with integer | float
    · have own : Token.InClass ⟨.integer, text.toList⟩ := integer
      exact ⟨_, .single own (by simp), written (.inl rfl)⟩
    · have own : Token.InClass ⟨.float, text.toList⟩ := float
      exact ⟨_, .single own (by simp), written (.inr rfl)⟩

/-- Heads and a tail with fitting names are covered up to the closing parenthesis. -/
theorem exists_covers_segments {heads : List String} {tail : Tail}
    (binders : ∀ name ∈ heads ++ tail.binders, IsBinder name) :
    ∃ tokens, Covers tokens
        (heads.flatMap (fun head => head.toList ++ [':']) ++ (tail.chars ++ [')'])) ∧
      SegmentsForm tokens heads tail ∧
      ∀ behind, begins isIdentifierStart (joined tokens ++ behind) = true := by
  -- Going through the heads from the back, each is put in front with its colon.
  have closing : Covers [⟨.rightParen, [')']⟩] [')'] :=
    .cons rfl (by simp) .nil fun _ _ => trivial
  induction heads with
  | nil =>
    cases tail with
    | binder name =>
      have own := (binders name (by simp [Tail.binders])).inClass
      have form : SegmentsForm [Token.ofName name, ⟨.rightParen, [')']⟩] []
          (.binder (Token.ofName name).text) := .last (.binder rfl) rfl
      rw [Token.text_ofName] at form
      refine ⟨_, .cons own (by simp [Token.ofName]) closing ?_, form, ?_⟩
      · exact fun _ _ => Token.stopsBefore_of_atMark (by simp) (by simp [Token.ofName])
      · intro behind
        rw [Token.joined_cons, List.append_assoc]
        exact own.begins_identifierStart (.inl rfl) _
    | wildcard =>
      have own : Token.InClass ⟨.underscore, ['_']⟩ := rfl
      refine ⟨_, .cons own (by simp) closing ?_, .last (.wildcard rfl) rfl, fun _ => rfl⟩
      exact fun _ _ => Token.stopsBefore_of_atMark (by simp) (by simp)
  | cons head heads ih =>
    obtain ⟨tokens, rest, others, starts⟩ := ih fun name member => binders name (by simp_all)
    have own := (binders head (by simp)).inClass
    -- The next segment begins with a name or an underscore, so the colon stays a single one.
    have marked := @Covers.cons ⟨.colon, [':']⟩ _ _ rfl (by simp) rest fun behind _ => by
      rw [← rest.joined]
      exact begins_eq_false_of_begins (starts behind) fun char start =>
        beq_false_of_ne (Token.ne_of_passes ':' start (by decide))
    have form : SegmentsForm (Token.ofName head :: ⟨.colon, [':']⟩ :: tokens)
        ((Token.ofName head).text :: heads) tail := .more rfl rfl others
    rw [Token.text_ofName] at form
    refine ⟨_, ?_, form, ?_⟩
    · have whole := Covers.cons own (by simp [Token.ofName]) marked fun _ _ =>
        Token.stopsBefore_of_atMark (by simp) (by simp [Token.ofName])
      simpa [Token.ofName] using whole
    · intro behind
      rw [Token.joined_cons, List.append_assoc]
      exact own.begins_identifierStart (.inl rfl) _

/-- A cons pattern with heads and fitting names is covered by tokens that write it. -/
theorem ConsPattern.exists_covers {parts : ConsPattern} (some : parts.heads ≠ [])
    (binders : ∀ name ∈ parts.binders, IsBinder name) :
    ∃ tokens, Covers tokens parts.chars ∧ ConsForm tokens parts := by
  -- A parenthesis in front of the segments is a token by itself.
  obtain ⟨inner, covers, form, _⟩ := exists_covers_segments binders
  have opened : Covers (⟨.leftParen, ['(']⟩ :: inner) _ :=
    .cons rfl (by simp) covers fun _ _ => trivial
  refine ⟨_, by simpa [chars] using opened, consForm_iff.mpr ⟨_, _, rfl, rfl, form, some⟩⟩

/-- A sound slot with fitting names is covered by tokens that write it. -/
theorem Slot.exists_covers {slot : Slot} (sound : slot.Sound)
    (binders : ∀ name ∈ slot.binders, IsBinder name) :
    ∃ tokens, Covers tokens slot.chars ∧ SlotForm tokens slot := by
  -- Each kind of slot is covered by what covers its content.
  cases slot with
  | literal value =>
    obtain ⟨tokens, covers, form⟩ := Literal.WellFormed.exists_covers sound
    exact ⟨tokens, covers, .literal form⟩
  | binder name =>
    obtain ⟨tokens, covers, form⟩ := (binders name (by simp [Slot.binders])).exists_covers
    exact ⟨tokens, covers, .binder form⟩
  | wildcard =>
    have own : Token.InClass ⟨.underscore, ['_']⟩ := rfl
    exact ⟨_, .single own (by simp), .wildcard rfl⟩
  | cons parts =>
    obtain ⟨tokens, covers, form⟩ := ConsPattern.exists_covers sound binders
    exact ⟨tokens, covers, .cons form⟩

/-- A slot is written by some tokens. -/
theorem SlotForm.tokens_ne_nil {tokens : List Token} {slot : Slot} (form : SlotForm tokens slot) :
    tokens ≠ [] := by
  -- Every kind of slot takes at least one token.
  intro empty
  subst empty
  cases form with
  | literal form => simpa using form.alone
  | binder form => cases form
  | cons form => cases form

namespace Pattern

/-- Several slots are shown with a comma and a blank behind the first. -/
theorem slotsChars_cons_cons (slot next : Slot) (rest : List Slot) :
    slotsChars (slot :: next :: rest) =
      slot.chars ++ (',' :: ' ' :: slotsChars (next :: rest)) := by
  -- The separator stands between the first slot and those behind it.
  simp [slotsChars, List.intercalate_cons_cons]

/-- Slots are covered by tokens that write them when the blanks behind the commas are left out. -/
theorem exists_tokens_slots {slots : List Slot} (some : slots ≠ [])
    (sound : ∀ slot ∈ slots, slot.Sound)
    (binders : ∀ slot ∈ slots, ∀ name ∈ slot.binders, IsBinder name) :
    ∃ tokens, joined tokens = slotsChars slots ∧
      (∀ behind, AtMark behind → Settled behind tokens) ∧
      (∀ behind, AtMark behind → begins isBlank (joined tokens ++ behind) = false) ∧
      Separated .comma SlotForm (solid tokens) slots := by
  -- From the last slot to the first, one more comma and blank are put in between.
  induction slots with
  | nil => exact absurd rfl some
  | cons slot rest ih =>
    obtain ⟨front, covers, form⟩ :=
      slot.exists_covers (sound slot (by simp)) (binders slot (by simp))
    have visible {behind : List Char} (mark : AtMark behind) :=
      covers.begins_blank form.tokens_ne_nil mark
    cases rest with
    | nil =>
      refine ⟨front, ?_, covers.settled, ?_, ?_⟩
      · simp [covers.joined, slotsChars]
      · intro behind mark
        rw [covers.joined]
        exact visible mark
      · rw [covers.solid]
        exact .one form
    | cons next others =>
      obtain ⟨back, text, settled, notBlank, forms⟩ := ih (by simp)
        (fun slot member => sound slot (by simp_all))
        (fun slot member => binders slot (by simp_all))
      have comma : Token.InClass ⟨.comma, [',']⟩ := rfl
      have blank : Token.InClass ⟨.whitespace, [' ']⟩ := by
        refine ⟨by simp, by simp [IsBlank]⟩
      refine ⟨front ++ ⟨.comma, [',']⟩ :: ⟨.whitespace, [' ']⟩ :: back, ?_, ?_, ?_, ?_⟩
      · simp [covers.joined, text, slotsChars_cons_cons]
      · intro behind mark
        rw [Token.settled_append]
        refine ⟨covers.settled _ (by simp), comma, trivial, blank, ?_, settled behind mark⟩
        -- The next slot does not begin with a blank, so the blank behind the comma is alone.
        exact notBlank behind mark
      · intro behind mark
        rw [Token.joined_append, covers.joined, List.append_assoc]
        exact visible (by simp)
      · have forms : Separated .comma SlotForm (front ++ ⟨.comma, [',']⟩ :: solid back)
            (slot :: next :: others) := .more form rfl forms
        have same : solid (front ++ ⟨.comma, [',']⟩ :: ⟨.whitespace, [' ']⟩ :: back) =
            solid front ++ ⟨.comma, [',']⟩ :: solid back := by
          simp [solid]
        rwa [same, covers.solid]

/-- The canonical text of a well-formed pattern falls into tokens that write the pattern. -/
theorem WellFormed.form {options : PatternOptions} {pattern : Pattern}
    (whole : pattern.WellFormed options) :
    PatternForm (Token.ofChars pattern.chars) pattern := by
  -- It is enough to give tokens that are settled, for then they are those of the text.
  obtain ⟨sound, binders, _, typeName⟩ := whole
  suffices ∃ tokens, joined tokens = pattern.chars ∧ Settled [] tokens ∧
      PatternForm tokens pattern by
    obtain ⟨tokens, text, settled, form⟩ := this
    rwa [Token.ofChars_eq_iff.mpr ⟨text, settled⟩]
  cases pattern with
  | wildcard =>
    have covers : Covers [⟨.underscore, ['_']⟩] ['_'] := .single rfl (by simp)
    exact ⟨_, covers.joined, covers.settled [] atMark_nil, .wildcard covers.solid rfl⟩
  | literal value =>
    obtain ⟨tokens, covers, form⟩ := Literal.WellFormed.exists_covers sound
    exact ⟨tokens, covers.joined, covers.settled [] atMark_nil,
      .literal (covers.solid.symm ▸ form)⟩
  | cons parts =>
    obtain ⟨tokens, covers, form⟩ := ConsPattern.exists_covers sound binders
    exact ⟨tokens, covers.joined, covers.settled [] atMark_nil, .cons (covers.solid.symm ▸ form)⟩
  | list slots =>
    have opening : Token.InClass ⟨.leftBracket, ['[']⟩ := rfl
    have closing : Token.InClass ⟨.rightBracket, [']']⟩ := rfl
    by_cases some : slots = []
    · subst some
      refine ⟨[⟨.leftBracket, ['[']⟩, ⟨.rightBracket, [']']⟩], rfl, ?_, ?_⟩
      · exact ⟨opening, trivial, closing, trivial, trivial⟩
      · exact .list (.empty rfl rfl)
    · obtain ⟨inner, text, settled, _, forms⟩ := exists_tokens_slots some sound
        fun slot member name among => binders name (List.mem_flatMap.mpr ⟨slot, member, among⟩)
      refine ⟨⟨.leftBracket, ['[']⟩ :: (inner ++ [⟨.rightBracket, [']']⟩]), ?_, ?_, ?_⟩
      · simp [text, chars]
      · refine ⟨opening, trivial, ?_⟩
        rw [Token.settled_append]
        exact ⟨settled _ (by simp), closing, trivial, trivial⟩
      · have form : ListForm
            (⟨.leftBracket, ['[']⟩ :: (solid inner ++ [⟨.rightBracket, [']']⟩])) slots :=
          .slots rfl forms rfl
        refine .list ?_
        simpa [solid] using form
  | typeTag name =>
    obtain ⟨⟨first, last, segments, form⟩, _⟩ := typeName name rfl
    -- A type path is its own slice, since nothing stands around it.
    have slice : PathSlice (Token.ofChars name.toList) (Token.ofChars name.toList) :=
      ⟨⟨[], [], by simp, rfl, rfl⟩, first, last⟩
    obtain ⟨text, settled⟩ := Token.ofChars_eq_iff.mp (rfl : Token.ofChars name.toList = _)
    have written := PatternForm.typeTag form slice
    rw [text, String.ofList_toList] at written
    exact ⟨_, text, settled, written⟩

/-- A well-formed pattern is read from its canonical text. -/
theorem WellFormed.parseWith_text {options : PatternOptions} {pattern : Pattern}
    (whole : pattern.WellFormed options) (short : byteLength pattern.text.toList ≤ Span.limit) :
    parseWith options pattern.text = .ok pattern := by
  -- The tokens of the text write the pattern, and its names are as they have to be.
  have admitted : pattern.Admitted options :=
    ⟨fresh_of_nothing.mpr ⟨fun name member => (whole.binders name member).begins_lower,
        whole.distinct⟩,
      fun name same => (whole.typeName name same).2⟩
  refine parseWith_eq_ok_iff_readWhole.mpr ((readWhole_eq_ok_iff short).mpr ⟨?_, admitted⟩)
  rw [text, String.toList_ofList]
  exact whole.form

/-- A pattern that comes out of some text. -/
def Readable (options : PatternOptions) (pattern : Pattern) : Prop :=
  -- Only texts count that spans can measure.
  ∃ source : String, byteLength source.toList ≤ Span.limit ∧
    parseWith options source = .ok pattern

/--
Canonical texts are read back as the patterns that they show.

Every pattern that comes out of a text is well-formed, and two of them are equal exactly when their
canonical texts are the same.
-/
theorem parseWith_canonical_text (options : PatternOptions) :
    (∀ pattern : Pattern, pattern.WellFormed options →
        byteLength pattern.text.toList ≤ Span.limit →
        ∃ again, parseWith options pattern.text = .ok again ∧ (again == pattern) = true) ∧
      (∀ pattern : Pattern, pattern.Readable options → pattern.WellFormed options) ∧
      ∀ left right : Pattern, left.Readable options → right.Readable options →
        byteLength left.text.toList ≤ Span.limit → byteLength right.text.toList ≤ Span.limit →
        ((left == right) = true ↔ left.text = right.text) := by
  -- Reading is a function, so patterns with one text between them are the same.
  have readable {pattern : Pattern} (written : pattern.Readable options) :
      pattern.WellFormed options := by
    obtain ⟨source, short, done⟩ := written
    exact wellFormed_of_parseWith short done
  refine ⟨?_, fun pattern => readable, ?_⟩
  · intro pattern whole short
    exact ⟨pattern, whole.parseWith_text short, (whole.sound.beq_iff whole.sound).mpr rfl⟩
  · intro left right first second firstShort secondShort
    rw [(readable first).sound.beq_iff (readable second).sound]
    refine ⟨fun same => by rw [same], ?_⟩
    intro same
    -- One text is read as one pattern only.
    have firstRead := (readable first).parseWith_text firstShort
    have secondRead := (readable second).parseWith_text secondShort
    rw [same, secondRead] at firstRead
    exact (Except.ok.inj firstRead).symm

/-- A list of a quoted text with a quote in it and a cons pattern is read back. -/
theorem parseWith_canonical_text_of_list :
    let pattern : Pattern := .list [.literal (.quoted "a\"\\"), .cons ⟨["x"], .binder "xs"⟩]
    pattern.WellFormed {} ∧ byteLength pattern.text.toList ≤ Span.limit ∧
      (∃ again, parseWith {} pattern.text = .ok again ∧ (again == pattern) = true) ∧
      pattern.Readable {} ∧ wildcard.Readable {} ∧
      ((pattern == wildcard) = true ↔ pattern.text = wildcard.text) := by
  intro pattern
  obtain ⟨reads, wellFormed, equal⟩ := parseWith_canonical_text {}
  have short : byteLength pattern.text.toList ≤ Span.limit := by decide
  have written : pattern.Readable {} :=
    ⟨"[ \"a\\\"\\\\\", (x :xs)]", by decide, by cbv⟩
  have lone : wildcard.Readable {} := ⟨" _", by decide, by cbv⟩
  have whole := wellFormed pattern written
  exact ⟨whole, short, reads pattern whole short, written, lone,
    equal pattern wildcard written lone short (by decide)⟩

end Pattern

end Motif
