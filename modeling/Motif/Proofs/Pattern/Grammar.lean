import Motif.Pattern.Binders
import Motif.Proofs.Token.Classes

/-!
The grammar of patterns, as a relation between the tokens of a text and the pattern they write:

* `pattern := "_" | cons | list | literal | type tag`
* `cons := "(" name (":" name)* ":" (name | "_") ")"`
* `list := "[" (slot ("," slot)*)? "]"` with `slot := literal | "_" | name | cons`
* `literal := quotation | integer | float`
* `type tag := name (separator name)*`
-/

namespace Motif

namespace Token

/-- The text that a token covers. -/
def text (token : Token) : String := String.ofList token.chars

/-- The tokens that are not blanks. -/
def solid (tokens : List Token) : List Token :=
  -- Nothing but the tag tells a blank from another token.
  tokens.filter fun token => token.tag ≠ .whitespace

/-- A token that is no blank stays in front. -/
theorem solid_cons {token : Token} (other : token.tag ≠ .whitespace) (rest : List Token) :
    solid (token :: rest) = token :: solid rest :=
  List.filter_cons_of_pos (by simpa using other)

/-- Blanks are dropped from two parts on their own. -/
theorem solid_append (front back : List Token) :
    solid (front ++ back) = solid front ++ solid back :=
  List.filter_append ..

/-- Nothing is left where all tokens are blanks. -/
theorem solid_eq_nil_iff {tokens : List Token} :
    solid tokens = [] ↔ ∀ token ∈ tokens, token.tag = .whitespace := by
  -- A token is dropped by its tag alone.
  simp [solid]

/-- Where solid tokens fall in two parts, so do all tokens. -/
theorem exists_of_solid_eq_append {tokens front back : List Token}
    (same : solid tokens = front ++ back) :
    ∃ before after, tokens = before ++ after ∧ solid before = front ∧ solid after = back :=
  List.filter_eq_append_iff.mp same

/-- In front of the first solid token there is nothing but blanks. -/
theorem exists_of_solid_eq_cons {tokens rest : List Token} {first : Token}
    (same : solid tokens = first :: rest) :
    ∃ blanks behind, tokens = blanks ++ first :: behind ∧ solid blanks = [] ∧
      solid behind = rest := by
  -- The tokens before the first one that is kept were all dropped.
  obtain ⟨blanks, behind, rfl, none, -, others⟩ := List.filter_eq_cons_iff.mp same
  exact ⟨blanks, behind, rfl, List.filter_eq_nil_iff.mpr none, others⟩

/-- The names of the identifiers among some tokens, in order. -/
def names (tokens : List Token) : List String :=
  -- No other token has a name, not even one that looks like an identifier in quotes.
  (tokens.filter fun token => token.tag = .identifier).map text

/-- No tokens have no names. -/
@[simp] theorem names_nil : names [] = [] := rfl

/-- The names of two parts are those of the first and then those of the second. -/
@[simp] theorem names_append (front back : List Token) :
    names (front ++ back) = names front ++ names back := by
  -- Tokens are looked at one by one.
  simp [names]

/-- An identifier adds its name. -/
theorem names_cons_of_identifier {token : Token} (tag : token.tag = .identifier)
    (rest : List Token) : names (token :: rest) = token.text :: names rest := by
  simp [names, tag]

/-- Other tokens add no name. -/
theorem names_cons_of_other {token : Token} {tag : TokenTag} (kind : token.tag = tag)
    (rest : List Token) (other : tag ≠ .identifier := by decide) :
    names (token :: rest) = names rest := by
  simp [names, kind, other]

/-- Blanks have no names. -/
theorem names_solid (tokens : List Token) : names (solid tokens) = names tokens := by
  unfold names solid
  rw [List.filter_filter]
  -- An identifier is not a blank, so asking for that too changes nothing.
  congr 2
  grind

/-- Names come from identifiers. -/
theorem exists_of_mem_names {tokens : List Token} {name : String} (member : name ∈ names tokens) :
    ∃ token ∈ tokens, token.tag = .identifier ∧ token.text = name := by
  -- A name was taken from some identifier, which still stands among the tokens.
  simpa [names, and_assoc] using member

end Token

open Token (names names_cons_of_identifier names_cons_of_other solid)

/-- One item, or several with a separating token between any two. -/
inductive Separated {α : Type} (mark : TokenTag) (Item : List Token → α → Prop) :
    List Token → List α → Prop
  | one {tokens : List Token} {item : α} (form : Item tokens item) :
      Separated mark Item tokens [item]
  | more {front rest : List Token} {separator : Token} {item : α} {items : List α}
      (form : Item front item) (between : separator.tag = mark)
      (others : Separated mark Item rest items) :
      Separated mark Item (front ++ separator :: rest) (item :: items)

/-- An identifier writes its name. -/
inductive NameForm : List Token → String → Prop
  | name {token : Token} (tag : token.tag = .identifier) : NameForm [token] token.text

/-- A quotation writes the text between its quotes without escapes, and a number its numeral. -/
inductive LiteralForm : List Token → Literal → Prop
  | quoted {token : Token} {mark : Char} {body text : List Char} (tag : token.tag = .quotation)
      (quote : mark = '"' ∨ mark = '\'') (chars : token.chars = mark :: (body ++ [mark]))
      (inside : QuotedBody mark body) (stands : Unescapes body text) :
      LiteralForm [token] (.quoted (String.ofList text))
  | numeral {token : Token} {literal : Literal} (tag : token.tag = .integer ∨ token.tag = .float)
      (number : Literal.numeral? token.text = some literal) : LiteralForm [token] literal

/-- A literal is a single token, either a quotation or a number. -/
theorem LiteralForm.alone {tokens : List Token} {literal : Literal}
    (form : LiteralForm tokens literal) :
    ∃ token, tokens = [token] ∧
      (token.tag = .quotation ∨ token.tag = .integer ∨ token.tag = .float) := by
  -- Both ways to write a literal take a single token and tell its tag.
  cases form with
  | quoted tag => exact ⟨_, rfl, .inl tag⟩
  | numeral tag => exact ⟨_, rfl, .inr tag⟩

/-- A tail is a name or an underscore. -/
inductive TailForm : Token → Tail → Prop
  | binder {token : Token} (tag : token.tag = .identifier) : TailForm token (.binder token.text)
  | wildcard {token : Token} (tag : token.tag = .underscore) : TailForm token .wildcard

/-- A cons pattern has at least one head, and a colon stands between any two segments. -/
inductive ConsForm : List Token → ConsPattern → Prop
  | parts {opening colon final closing : Token} {front : List Token} {heads : List String}
      {tail : Tail} (opens : opening.tag = .leftParen)
      (names : Separated .colon NameForm front heads)
      (between : colon.tag = .colon) (ends : TailForm final tail)
      (closes : closing.tag = .rightParen) :
      ConsForm (opening :: (front ++ [colon, final, closing])) ⟨heads, tail⟩

/-- A slot is a literal, a name, an underscore or a cons pattern. -/
inductive SlotForm : List Token → Slot → Prop
  | literal {tokens : List Token} {value : Literal} (form : LiteralForm tokens value) :
      SlotForm tokens (.literal value)
  | binder {tokens : List Token} {name : String} (form : NameForm tokens name) :
      SlotForm tokens (.binder name)
  | wildcard {token : Token} (tag : token.tag = .underscore) : SlotForm [token] .wildcard
  | cons {tokens : List Token} {parts : ConsPattern} (form : ConsForm tokens parts) :
      SlotForm tokens (.cons parts)

/-- A list pattern has slots in brackets, or none at all. -/
inductive ListForm : List Token → List Slot → Prop
  | empty {opening closing : Token} (opens : opening.tag = .leftBracket)
      (closes : closing.tag = .rightBracket) : ListForm [opening, closing] []
  | slots {opening closing : Token} {inner : List Token} {slots : List Slot}
      (opens : opening.tag = .leftBracket) (forms : Separated .comma SlotForm inner slots)
      (closes : closing.tag = .rightBracket) : ListForm (opening :: (inner ++ [closing])) slots

/-- A list pattern starts with its opening bracket. -/
theorem ListForm.opens {tokens : List Token} {slots : List Slot} (form : ListForm tokens slots) :
    ∃ opening inner, tokens = opening :: inner ∧ opening.tag = .leftBracket := by
  -- Whether there are slots or none, the bracket stands in front.
  cases form with
  | empty opens => exact ⟨_, _, rfl, opens⟩
  | slots opens => exact ⟨_, _, rfl, opens⟩

/-- The tokens from the first identifier to the last one, when only blanks stand around them. -/
structure PathSlice (tokens path : List Token) : Prop where
  around : ∃ before after, tokens = before ++ path ++ after ∧ solid before = [] ∧ solid after = []
  first : path.head?.map Token.tag = some .identifier
  last : path.getLast?.map Token.tag = some .identifier

/--
The pattern that the tokens of a whole text write.

Blanks do not count, except those inside a type tag, which is named by its piece of the text.
-/
inductive PatternForm (tokens : List Token) : Pattern → Prop
  | wildcard {token : Token} (alone : solid tokens = [token]) (tag : token.tag = .underscore) :
      PatternForm tokens .wildcard
  | literal {value : Literal} (form : LiteralForm (solid tokens) value) :
      PatternForm tokens (.literal value)
  | cons {parts : ConsPattern} (form : ConsForm (solid tokens) parts) :
      PatternForm tokens (.cons parts)
  | list {slots : List Slot} (form : ListForm (solid tokens) slots) :
      PatternForm tokens (.list slots)
  | typeTag {segments : List String} {path : List Token}
      (form : Separated .pathSeparator NameForm (solid tokens) segments)
      (slice : PathSlice tokens path) :
      PatternForm tokens (.typeTag (String.ofList (Token.joined path)))

/-! The names that tokens of a form write are those that the form binds, in the same order. -/

/-- What holds item by item of names holds of items with marks between them. -/
theorem Separated.names_eq {α : Type} {mark : TokenTag} {Item : List Token → α → Prop}
    {view : α → List String} (nameless : mark ≠ .identifier)
    (single : ∀ tokens item, Item tokens item → names tokens = view item)
    {tokens : List Token} {items : List α} (form : Separated mark Item tokens items) :
    names tokens = items.flatMap view := by
  -- A mark adds no name, so names are added up item by item.
  induction form with
  | one form => simpa using single _ _ form
  | more form between _ ih =>
    rw [Token.names_append, names_cons_of_other between _ nameless, single _ _ form, ih,
      List.flatMap_cons]

/-- A name is the name of its identifier. -/
theorem NameForm.names_eq {tokens : List Token} {name : String} (form : NameForm tokens name) :
    names tokens = [name] := by
  -- The form has one token, which is an identifier.
  obtain ⟨tag⟩ := form
  rw [names_cons_of_identifier tag, Token.names_nil]

/-- A literal has no names. -/
theorem LiteralForm.names_eq {tokens : List Token} {literal : Literal}
    (form : LiteralForm tokens literal) : names tokens = [] := by
  -- Neither a quotation nor a number is an identifier.
  obtain ⟨token, rfl, tag⟩ := form.alone
  rcases tag with tag | tag | tag <;> rw [names_cons_of_other tag, Token.names_nil]

/-- A tail has the name that it binds. -/
theorem TailForm.names_eq {token : Token} {tail : Tail} (form : TailForm token tail)
    (rest : List Token) : names (token :: rest) = tail.binders ++ names rest := by
  -- A tail that is an underscore adds nothing to the names behind it.
  cases form with
  | binder tag => exact names_cons_of_identifier tag rest
  | wildcard tag => exact names_cons_of_other tag rest

/-- A cons pattern has the names of its heads and then that of its tail. -/
theorem ConsForm.names_eq {tokens : List Token} {parts : ConsPattern}
    (form : ConsForm tokens parts) : names tokens = parts.binders := by
  -- Parentheses and colons drop out, which leaves the heads and the tail.
  obtain ⟨opens, heads, between, ends, closes⟩ := form
  have front := heads.names_eq (by decide) fun _ _ form => form.names_eq
  rw [names_cons_of_other opens, Token.names_append, names_cons_of_other between, ends.names_eq,
    names_cons_of_other closes, front]
  simp [ConsPattern.binders]

/-- A slot has the names that it binds. -/
theorem SlotForm.names_eq {tokens : List Token} {slot : Slot} (form : SlotForm tokens slot) :
    names tokens = slot.binders := by
  -- Every kind of slot is settled already by what it holds.
  cases form with
  | literal form => exact form.names_eq
  | binder form => exact form.names_eq
  | wildcard tag => exact names_cons_of_other tag []
  | cons form => exact form.names_eq

/-- A list pattern has the names of its slots one after another. -/
theorem ListForm.names_eq {tokens : List Token} {slots : List Slot} (form : ListForm tokens slots) :
    names tokens = slots.flatMap Slot.binders := by
  -- Brackets and commas drop out, which leaves the slots.
  cases form with
  | empty opens closes => rw [names_cons_of_other opens, names_cons_of_other closes]; rfl
  | slots opens forms closes =>
    have inner := forms.names_eq (by decide) fun _ _ form => form.names_eq
    rw [names_cons_of_other opens, Token.names_append, names_cons_of_other closes, inner]
    simp

/-- Except in a type tag, every identifier of a text is a name that its pattern binds. -/
theorem PatternForm.names_eq {tokens : List Token} {pattern : Pattern}
    (form : PatternForm tokens pattern) (untagged : ∀ name, pattern ≠ .typeTag name) :
    names tokens = pattern.binders := by
  rw [← Token.names_solid]
  cases form with
  | wildcard alone tag => rw [alone]; exact names_cons_of_other tag []
  | literal form => exact form.names_eq
  | cons form => exact form.names_eq
  | list form => exact form.names_eq
  | typeTag => exact absurd rfl (untagged _)

end Motif
