import Motif.Lexeme

/-! A cursor over the lexemes of a text, which reads the end over and over once it is there. -/

namespace Motif

/-- The lexemes of a text and the place of the one that is looked at. -/
structure LexemeCursor where
  source : String
  /-- All lexemes of the text, with the end behind them. -/
  lexemes : List Lexeme
  position : Nat

namespace LexemeCursor

/-- The cursor at the first lexeme of a text. -/
def ofText (source : String) : LexemeCursor :=
  -- The end gets its place like any other token, and only blanks are left out.
  ⟨source, (Lexeme.cut source 0 (RawToken.tokenize source)).filter fun lexeme =>
    lexeme.tag ≠ .whitespace, 0⟩

/-- The lexeme at the cursor; the end of the text stands in where there is none. -/
def current (cursor : LexemeCursor) : Lexeme :=
  cursor.lexemes[cursor.position]?.getD (.finish cursor.source)

/-- Takes the lexeme at the cursor and moves on to the next, unless it is the end. -/
def advance (cursor : LexemeCursor) : Lexeme × LexemeCursor :=
  let lexeme := cursor.current
  (lexeme,
    if lexeme.tag = .finish then cursor else { cursor with position := cursor.position + 1 })

/-- Takes the lexeme at the cursor if it is of some kind. -/
def eat (tag : TokenTag) (cursor : LexemeCursor) : Option Lexeme × LexemeCursor :=
  -- A lexeme of another kind is left where it is.
  if cursor.current.tag = tag then (some cursor.current, cursor.advance.2) else (none, cursor)

/-- The lexemes that were not taken yet. -/
def ahead (cursor : LexemeCursor) : List Lexeme :=
  cursor.lexemes.drop cursor.position

end LexemeCursor

end Motif
