import Mathlib
import Motif.Text.Quotation

/-! Quoted text: where a quotation ends, and that escaping is undone by reading it. -/

namespace Motif

/-- The inside of a quotation: no `mark` in it is bare, and no backslash stands alone. -/
inductive QuotedBody (mark : Char) : List Char → Prop
  | nil : QuotedBody mark []
  | escape {escaped : Char} {rest : List Char} (others : QuotedBody mark rest) :
      QuotedBody mark ('\\' :: escaped :: rest)
  | plain {char : Char} {rest : List Char} (bare : char ≠ mark) (single : char ≠ '\\')
      (others : QuotedBody mark rest) : QuotedBody mark (char :: rest)

/-- Neither of the two quotes is a backslash. -/
theorem ne_backslash_of_quote {mark : Char} (quote : mark = '"' ∨ mark = '\'') : mark ≠ '\\' := by
  rcases quote with rfl | rfl <;> decide

/-- Both quotes have one byte. -/
theorem utf8Size_of_quote {mark : Char} (quote : mark = '"' ∨ mark = '\'') :
    mark.utf8Size = 1 := by
  rcases quote with rfl | rfl <;> decide

/-- The search for the closing quote stops behind a body, and nowhere else. -/
theorem closeQuotation?_eq_some_iff {mark : Char} (quote : mark ≠ '\\')
    {text body after : List Char} :
    closeQuotation? mark text = some (body, after) ↔
      text = body ++ mark :: after ∧ QuotedBody mark body := by
  -- The search takes a text apart just as a body is put together, two characters at an escape.
  constructor
  · intro closed
    refine ⟨(closeQuotation?_append closed).symm, ?_⟩
    fun_induction closeQuotation? mark text generalizing body after with
    | case1 => simp at closed
    | case2 escaped rest ih =>
      obtain ⟨⟨inner, behind⟩, found, same⟩ := Option.map_eq_some_iff.mp closed
      cases same
      exact .escape (ih found)
    | case3 => cases closed; exact .nil
    | case4 char rest unescaped bare ih =>
      obtain ⟨⟨inner, behind⟩, found, same⟩ := Option.map_eq_some_iff.mp closed
      cases same
      -- A backslash that escapes nothing is the last character, so no quote can follow it.
      refine .plain bare ?_ (ih found)
      intro same
      subst same
      cases rest with
      | nil => simp [closeQuotation?] at found
      | cons escaped others => exact unescaped escaped others rfl rfl
  · intro given
    obtain ⟨rfl, body⟩ := given
    induction body with
    | nil => simp [closeQuotation?, quote]
    | escape _ ih => simp [closeQuotation?, ih]
    | plain bare single _ ih => simp [closeQuotation?, bare, single, ih]

/-- The search fails where no body ends with the quote behind it. -/
theorem closeQuotation?_eq_none_iff {mark : Char} (quote : mark ≠ '\\') {text : List Char} :
    closeQuotation? mark text = none ↔
      ∀ body after, text = body ++ mark :: after → ¬ QuotedBody mark body := by
  simp [Option.eq_none_iff_forall_ne_some, closeQuotation?_eq_some_iff quote]

/-- Escaped text can stand between double quotes. -/
theorem quotedBody_escapeQuotes (text : List Char) : QuotedBody '"' (escapeQuotes text) := by
  -- The two characters that may not stand bare are those that get a backslash.
  induction text with
  | nil => exact .nil
  | cons char rest ih =>
    by_cases special : char = '"' ∨ char = '\\'
    · rw [escapeQuotes, if_pos special]
      exact .escape ih
    · obtain ⟨bare, single⟩ := not_or.mp special
      rw [escapeQuotes, if_neg special]
      exact .plain bare single ih

/-- Reading drops exactly the backslashes that escaping put in. -/
theorem unescape_escapeQuotes (text : List Char) : unescape (escapeQuotes text) = text := by
  -- Each character comes back by itself, so the text is gone through from the front.
  induction text with
  | nil => rfl
  | cons char rest ih =>
    by_cases special : char = '"' ∨ char = '\\'
    · rw [escapeQuotes, if_pos special, unescape, ih]
    · -- A backslash of the text itself has been escaped, so this character escapes nothing.
      have single : char ≠ '\\' := (not_or.mp special).2
      rw [escapeQuotes, if_neg special]
      simp [unescape, single, ih]

/-- What a body stands for: its characters, and of each pair with a backslash the second one. -/
inductive Unescapes : List Char → List Char → Prop
  | nil : Unescapes [] []
  | escape {escaped : Char} {rest text : List Char} (others : Unescapes rest text) :
      Unescapes ('\\' :: escaped :: rest) (escaped :: text)
  | plain {char : Char} {rest text : List Char} (single : char ≠ '\\')
      (others : Unescapes rest text) : Unescapes (char :: rest) (char :: text)

/-- In a body every backslash has a character behind it, so none of them is kept. -/
theorem QuotedBody.unescapes {mark : Char} {body : List Char} (inside : QuotedBody mark body) :
    Unescapes body (unescape body) := by
  induction inside with
  | nil => exact .nil
  | escape _ ih => exact .escape ih
  | plain _ single _ ih =>
    rw [unescape]
    · exact .plain single ih
    · simp [single]

/-- What a body stands for is what dropping its backslashes gives. -/
theorem Unescapes.unescape_eq {body text : List Char} (stands : Unescapes body text) :
    unescape body = text := by
  induction stands with
  | nil => rfl
  | escape _ ih => rw [unescape, ih]
  | plain single _ ih =>
    rw [unescape, ih]
    simp [single]

/-- Between two quotes of one byte each, the range that is read is the body. -/
theorem sliceBytes?_quotation {mark : Char} (narrow : mark.utf8Size = 1) (body : List Char) :
    sliceBytes? 1 (byteLength (mark :: (body ++ [mark])) - 1) (mark :: (body ++ [mark])) =
      some body := by
  have slice : sliceBytes? (byteLength [mark]) (byteLength [mark] + byteLength body)
      (mark :: (body ++ [mark])) = some body := sliceBytes?_of_append rfl
  have opening : byteLength [mark] = 1 := narrow
  have stop : byteLength (mark :: (body ++ [mark])) - 1 = 1 + byteLength body := by
    simp [narrow, Nat.add_comm]
  rw [stop, ← opening, slice]

/-- A quotation stands for what its body does. -/
theorem unquote_of_body {mark : Char} (narrow : mark.utf8Size = 1) (body : List Char) :
    unquote (mark :: (body ++ [mark])) = unescape body := by
  rw [unquote, sliceBytes?_quotation narrow, Option.getD_some]

/-- A text in quotes reads back as that text. -/
theorem unquote_quote (text : List Char) : unquote (quote text) = text := by
  -- Without its quotes a quotation is the escaped text.
  rw [quote, unquote_of_body (by decide), unescape_escapeQuotes]

end Motif
