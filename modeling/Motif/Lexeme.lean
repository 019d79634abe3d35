import Motif.RawToken
import Motif.Span
import Motif.Token.Scan

/-! Tokens at their places in a pattern text, without the blanks between them. -/

namespace Motif

/-- A token with its text and its place. -/
structure Lexeme where
  tag : TokenTag
  text : String
  span : Span
  deriving DecidableEq

namespace Lexeme

/-- Gives every token its place, the first one starting at `offset`. -/
def locate (offset : Nat) : List Token → List Lexeme
  | [] => []
  | token :: rest =>
    -- The next token starts where this one ends.
    let span := Span.ofLength offset token.byteLength
    ⟨token.tag, String.ofList token.chars, span⟩ :: locate span.stop rest

/-- Cuts the text of every token out of the source, the first one starting at `offset`. -/
def cut (source : String) (offset : Nat) : List RawToken → List Lexeme
  | [] => []
  | token :: rest =>
    let span := Span.ofLength offset token.length
    -- A text that spans cannot reach is lost here, where the characters of a token would not be.
    ⟨token.tag, span.slice source, span⟩ :: cut source span.stop rest

/-- The lexemes of a text, in order and without the end. -/
def ofText (source : String) : List Lexeme :=
  -- Blanks count towards the places of other tokens and are dropped only then.
  (locate 0 (Token.ofChars source.toList)).filter fun lexeme => lexeme.tag ≠ .whitespace

/-- The lexeme behind the last one, of no length and at the very end. -/
def finish (source : String) : Lexeme :=
  ⟨.finish, "", Span.ofLength (min (byteLength source.toList) Span.limit) 0⟩

/-- What a message calls a lexeme that was found in place of another. -/
def found (lexeme : Lexeme) : String :=
  match lexeme.tag with
  -- Neither has a text of its own that would be worth showing.
  | .finish | .unterminated => lexeme.tag.name
  | _ => "`" ++ lexeme.text ++ "`"

end Lexeme

end Motif
