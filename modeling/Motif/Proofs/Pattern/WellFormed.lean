import Motif.Pattern.Text
import Motif.Proofs.Pattern.Reading

/-! Well-formed patterns, which are those that some text can write. -/

namespace Motif

open Token (Settled joined names solid)

/-- A lowercase letter with letters, digits and underscores behind it. -/
def IsBinder (name : String) : Prop :=
  -- Names with a capital letter in front are those of types.
  ∃ first rest, name.toList = first :: rest ∧ IsLowercase first ∧ ∀ char ∈ rest, IsNameRest char

/-- A name that can be bound passes the test for what it begins with. -/
theorem IsBinder.begins_lower {name : String} (binder : IsBinder name) :
    begins Char.isLower name.toList = true := by
  obtain ⟨first, rest, chars, lower, -⟩ := binder
  rw [chars]
  exact isLower_iff.mpr lower

/-- Identifiers with path separators between them, and blanks only between tokens. -/
def IsTypePath (name : String) : Prop :=
  -- The tokens are those of the name itself, so nothing can stand around the path.
  let tokens := Token.ofChars name.toList
  tokens.head?.map Token.tag = some .identifier ∧ tokens.getLast?.map Token.tag = some .identifier ∧
    ∃ segments, Separated .pathSeparator NameForm (solid tokens) segments

/-- A literal for a quoted text or for a numeral. -/
def Literal.WellFormed (literal : Literal) : Prop :=
  -- No other literal is ever read from a text.
  (∃ text, literal = .quoted text) ∨ ∃ text, Literal.numeral? text = some literal

/-- A slot holds a well-formed literal or a cons pattern with heads, if it holds either. -/
def Slot.Sound : Slot → Prop
  -- Names are looked at for the whole pattern, since they must differ from each other.
  | .literal value => value.WellFormed
  | .cons parts => parts.heads ≠ []
  | .binder _ | .wildcard => True

/-- All literals of a pattern are well-formed, and all of its cons patterns have heads. -/
def Pattern.Sound : Pattern → Prop
  -- Parts of a pattern that hold neither are always sound.
  | .literal value => value.WellFormed
  | .cons parts => parts.heads ≠ []
  | .list slots => ∀ slot ∈ slots, slot.Sound
  | .wildcard | .typeTag _ => True

/-- A pattern that can be written, under some options for type names. -/
structure Pattern.WellFormed (options : PatternOptions) (pattern : Pattern) : Prop where
  sound : pattern.Sound
  binders : ∀ name ∈ pattern.binders, IsBinder name
  distinct : pattern.binders.Nodup
  typeName : ∀ name, pattern = .typeTag name → IsTypePath name ∧ options.isTypeName name = true

/-- A numeral is a literal of its own text, with the number that it stands for. -/
theorem Literal.numeral?_eq_some_iff {text : String} {literal : Literal} :
    numeral? text = some literal ↔
      ∃ numeral, Numeral.ofChars? text.toList = some numeral ∧
        literal = ⟨text, some (.ofNumeral numeral), false⟩ := by
  -- A text that is no numeral makes no literal, and the number is computed from the text.
  unfold numeral? Number.parse?
  cases Numeral.ofChars? text.toList <;> simp [eq_comm]

/-! Patterns that were read are well-formed. -/

/-- Identifiers in lowercase can be bound. -/
theorem isBinder_of_identifier {token : Token} (own : token.InClass) (tag : token.tag = .identifier)
    (lower : begins Char.isLower token.text.toList = true) : IsBinder token.text := by
  -- An identifier has the right characters behind the first, whatever its case.
  simp only [Token.InClass, tag] at own
  obtain ⟨first, rest, chars, -, all, -⟩ := own
  rw [Token.text, String.toList_ofList, chars] at lower
  exact ⟨first, rest, by simpa [Token.text] using chars, isLower_iff.mp lower, all⟩

/-- A literal that tokens write is well-formed. -/
theorem LiteralForm.wellFormed {tokens : List Token} {literal : Literal}
    (form : LiteralForm tokens literal) : literal.WellFormed := by
  -- The two forms of literals are the two ways to be well-formed.
  cases form with
  | quoted => exact .inl ⟨_, rfl⟩
  | numeral _ number => exact .inr ⟨_, number⟩

/-- A cons pattern that tokens write has heads. -/
theorem ConsForm.heads_ne_nil {tokens : List Token} {parts : ConsPattern}
    (form : ConsForm tokens parts) : parts.heads ≠ [] := by
  -- The grammar does not let a tail stand alone.
  obtain ⟨_, _, _, _, _, some⟩ := consForm_iff.mp form
  exact some

/-- A slot that tokens write is sound. -/
theorem SlotForm.sound {tokens : List Token} {slot : Slot} (form : SlotForm tokens slot) :
    slot.Sound := by
  -- What a slot holds is written by tokens as well.
  cases form with
  | literal form => exact form.wellFormed
  | cons form => exact form.heads_ne_nil
  | binder | wildcard => trivial

/-- Slots that tokens write are all sound. -/
theorem Separated.slots_sound {tokens : List Token} {slots : List Slot}
    (form : Separated .comma SlotForm tokens slots) : ∀ slot ∈ slots, slot.Sound := by
  -- Every slot has tokens of its own.
  induction form with
  | one form => simpa using form.sound
  | more form _ _ ih => simpa [form.sound] using ih

/-- The slots of a list pattern that tokens write are all sound. -/
theorem ListForm.slots_sound {tokens : List Token} {slots : List Slot}
    (form : ListForm tokens slots) : ∀ slot ∈ slots, slot.Sound := by
  -- A list without slots has none that could fail.
  cases form with
  | empty => simp
  | slots _ forms => exact forms.slots_sound

/-- A pattern that tokens write is sound. -/
theorem PatternForm.sound {tokens : List Token} {pattern : Pattern}
    (form : PatternForm tokens pattern) : pattern.Sound := by
  -- Each form hands the question on to what it holds.
  cases form with
  | literal form => exact form.wellFormed
  | cons form => exact form.heads_ne_nil
  | list form => exact form.slots_sound
  | wildcard | typeTag => trivial

/-- The slice of a path falls into the same tokens by itself as within its text. -/
theorem PathSlice.ofChars_joined {text : List Char} {path : List Token}
    (slice : PathSlice (Token.ofChars text) path) : Token.ofChars (joined path) = path := by
  -- The path is settled within the text, and it stays so when the rest is cut off.
  obtain ⟨⟨before, after, split, _, _⟩, _, _⟩ := slice
  have settled := Token.settled_ofChars text
  rw [split, List.append_assoc, Token.settled_append, Token.settled_append] at settled
  -- What stood behind the path ended its last token, and so does the end of the slice.
  have before : Settled ([] ++ joined after) path := by simpa using settled.2.1
  exact Token.ofChars_eq_iff.mpr ⟨rfl, before.of_append⟩

/-- A type tag that was read is a type path. -/
theorem PatternForm.isTypePath {text : List Char} {name : String}
    (form : PatternForm (Token.ofChars text) (.typeTag name)) : IsTypePath name := by
  -- The tag is named by the slice, whose tokens are those of the path.
  obtain _ | _ | _ | _ | ⟨form, slice⟩ := form
  rename_i segments path
  have whole := slice.ofChars_joined
  obtain ⟨⟨before, after, split, noneBefore, noneAfter⟩, first, last⟩ := slice
  have inside : solid (Token.ofChars text) = solid path := by
    have parts : solid (before ++ path ++ after) = solid before ++ solid path ++ solid after := by
      simp [solid]
    rw [split, parts, noneBefore, noneAfter, List.nil_append, List.append_nil]
  rw [IsTypePath, String.toList_ofList, whole]
  exact ⟨first, last, segments, inside ▸ form⟩

namespace Pattern

/-- A pattern that the tokens of a text write is well-formed, if it is admitted. -/
theorem wellFormed_of_form {options : PatternOptions} {text : List Char} {pattern : Pattern}
    (form : PatternForm (Token.ofChars text) pattern) (admitted : pattern.Admitted options) :
    pattern.WellFormed options := by
  -- The form gives the shape of names, and admission that they are lowercase and differ.
  obtain ⟨fresh, known⟩ := admitted
  obtain ⟨lower, distinct⟩ := fresh_of_nothing.mp fresh
  refine ⟨form.sound, ?_, distinct, ?_⟩
  · intro name member
    -- Only a type tag has identifiers that are not bound, and it binds nothing.
    have untagged : ∀ tag, pattern ≠ .typeTag tag := by
      intro tag tagged
      simp [tagged, binders] at member
    rw [← form.names_eq untagged] at member
    obtain ⟨token, among, tag, rfl⟩ := Token.exists_of_mem_names member
    have own := (Token.settled_ofChars text).inClass token among
    exact isBinder_of_identifier own tag (lower _ (form.names_eq untagged ▸ member))
  · intro name tagged
    subst tagged
    exact ⟨form.isTypePath, known name rfl⟩

/-- A pattern that was read from a text is well-formed. -/
theorem wellFormed_of_parseWith {options : PatternOptions} {source : String} {pattern : Pattern}
    (short : byteLength source.toList ≤ Span.limit)
    (done : parseWith options source = .ok pattern) : pattern.WellFormed options := by
  -- What was read is written by its tokens, and admitted.
  obtain ⟨form, admitted⟩ := (readWhole_eq_ok_iff short).mp (parseWith_eq_ok_iff_readWhole.mp done)
  exact wellFormed_of_form form admitted

end Pattern

/-! Between well-formed patterns the equality test is equality, as no number in them is `nan`. -/

/-- The number of a well-formed literal is the one that its text writes. -/
theorem Literal.WellFormed.number_eq {literal : Literal} (sound : literal.WellFormed) :
    literal.number = Number.parse? literal.text := by
  -- A quoted text may be a numeral too, and then it has that number.
  rcases sound with ⟨text, rfl⟩ | ⟨text, number⟩
  · rfl
  · obtain ⟨numeral, read, rfl⟩ := Literal.numeral?_eq_some_iff.mp number
    simp [Number.parse?, read]

/-- What a text writes as a number equals itself. -/
theorem Number.parse?_beq_self (text : String) : (parse? text == parse? text) = true := by
  -- Either there is no number, or it is that of a numeral.
  unfold parse?
  cases Numeral.ofChars? text.toList with
  | none => rfl
  | some numeral => exact Number.ofNumeral_beq_self numeral

/-- Well-formed literals are equal when the equality test says so. -/
theorem Literal.WellFormed.beq_iff {left right : Literal} (first : left.WellFormed)
    (second : right.WellFormed) : (left == right) = true ↔ left = right := by
  -- Equal texts have equal numbers, so comparing the numbers decides nothing.
  have test : (left == right) = (left.text == right.text &&
      (left.number == right.number && left.isQuoted == right.isQuoted)) := rfl
  rw [test, first.number_eq, second.number_eq]
  constructor
  · intro same
    simp only [Bool.and_eq_true, beq_iff_eq] at same
    obtain ⟨text, _, isQuoted⟩ := same
    have number : left.number = right.number := by rw [first.number_eq, second.number_eq, text]
    cases left
    cases right
    simp_all
  · intro same
    simp [same, Number.parse?_beq_self]

/-- Sound slots are equal when the equality test says so. -/
theorem Slot.Sound.beq_iff {left right : Slot} (first : left.Sound) (second : right.Sound) :
    (left == right) = true ↔ left = right := by
  -- Slots of two forms differ either way, and those of one form are compared by what they hold.
  cases left <;> cases right
  case literal.literal own other =>
    have test : (Slot.literal own == .literal other) = (own == other) := rfl
    rw [test, Literal.WellFormed.beq_iff first second, Slot.literal.injEq]
  case binder.binder own other =>
    have test : (Slot.binder own == .binder other) = (own == other) := rfl
    simp [test]
  case wildcard.wildcard => simp [show (Slot.wildcard == .wildcard) = true from rfl]
  case cons.cons own other =>
    have test : (Slot.cons own == .cons other) = (own == other) := rfl
    simp [test]
  all_goals
    constructor <;> intro same <;> cases same

/-- Sound slots are equal one by one when the equality test says so. -/
theorem Slot.beq_iff_of_sound {left right : List Slot} (first : ∀ slot ∈ left, slot.Sound)
    (second : ∀ slot ∈ right, slot.Sound) : (left == right) = true ↔ left = right := by
  -- Lists are compared slot by slot, and must end together.
  induction left generalizing right with
  | nil => cases right <;> simp
  | cons slot rest ih =>
    cases right with
    | nil => simp
    | cons other others =>
      have front := Slot.Sound.beq_iff (first slot (by simp)) (second other (by simp))
      have back := ih (fun slot member => first slot (.tail _ member))
        fun slot member => second slot (.tail _ member)
      simp [front, back]

/-- Sound patterns are equal when the equality test says so. -/
theorem Pattern.Sound.beq_iff {left right : Pattern} (first : left.Sound)
    (second : right.Sound) : (left == right) = true ↔ left = right := by
  -- Patterns of two forms differ either way, and the others are compared by what they hold.
  cases left <;> cases right
  case wildcard.wildcard => simp [show (Pattern.wildcard == .wildcard) = true from rfl]
  case literal.literal own other =>
    have test : (Pattern.literal own == .literal other) = (own == other) := rfl
    rw [test, Literal.WellFormed.beq_iff first second, Pattern.literal.injEq]
  case cons.cons own other =>
    have test : (Pattern.cons own == .cons other) = (own == other) := rfl
    simp [test]
  case list.list own other =>
    have test : (Pattern.list own == .list other) = (own == other) := rfl
    rw [test, Slot.beq_iff_of_sound first second, Pattern.list.injEq]
  case typeTag.typeTag own other =>
    have test : (Pattern.typeTag own == .typeTag other) = (own == other) := rfl
    simp [test]
  all_goals
    constructor <;> intro same <;> cases same

end Motif
