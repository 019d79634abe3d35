import Motif.Text.Bytes

/-! Quoted text, in which a backslash makes the character behind it stand for itself. -/

namespace Motif

/-- Splits a text at the first `quote` that no backslash escapes; the quote is in neither part. -/
def closeQuotation? (quote : Char) : List Char → Option (List Char × List Char)
  -- No quote is left that could close the quotation.
  | [] => none
  -- The character behind a backslash belongs to the body, whatever it is.
  | '\\' :: escaped :: rest =>
    (closeQuotation? quote rest).map fun (body, after) => ('\\' :: escaped :: body, after)
  | char :: rest =>
    if char = quote then some ([], rest)
    else (closeQuotation? quote rest).map fun (body, after) => (char :: body, after)

/-- Splitting leaves out the closing quote and nothing else. -/
theorem closeQuotation?_append {quote : Char} {text body after : List Char}
    (closed : closeQuotation? quote text = some (body, after)) :
    body ++ quote :: after = text := by
  -- Each step of the search puts back the characters that it took off.
  fun_induction closeQuotation? quote text generalizing body after with
  | case1 => simp at closed
  | case2 escaped rest ih =>
    obtain ⟨⟨inner, behind⟩, found, same⟩ := Option.map_eq_some_iff.mp closed
    cases same
    simp [ih found]
  | case3 rest _ =>
    cases closed
    rfl
  | case4 char rest _ _ ih =>
    obtain ⟨⟨inner, behind⟩, found, same⟩ := Option.map_eq_some_iff.mp closed
    cases same
    simp [ih found]

/-- Drops each backslash that escapes a character. -/
def unescape : List Char → List Char
  | [] => []
  | '\\' :: escaped :: rest => escaped :: unescape rest
  -- A backslash at the very end escapes nothing and stays.
  | char :: rest => char :: unescape rest

/-- The text that a quotation with both its quotes stands for. -/
def unquote (quotation : List Char) : List Char :=
  -- A range that does not fit the text, or would split a character, stands for no text.
  unescape ((sliceBytes? 1 (byteLength quotation - 1) quotation).getD [])

/-- Puts a backslash before every double quote and every backslash. -/
def escapeQuotes : List Char → List Char
  | [] => []
  | char :: rest =>
    -- These two alone would end the quotation or change what follows.
    if char = '"' ∨ char = '\\' then '\\' :: char :: escapeQuotes rest
    else char :: escapeQuotes rest

/-- A text in double quotes. -/
def quote (text : List Char) : List Char :=
  '"' :: (escapeQuotes text ++ ['"'])

end Motif
