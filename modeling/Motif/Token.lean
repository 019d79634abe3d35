import Motif.Span

/-! Tokens of pattern text: what kinds there are, and what they are called. -/

namespace Motif

/-- The kind of a token. -/
inductive TokenTag where
  | leftParen
  | rightParen
  | leftBracket
  | rightBracket
  /-- One colon, between the segments of a cons pattern. -/
  | colon
  /-- Two colons or a backslash, between the segments of a type path. -/
  | pathSeparator
  | comma
  /-- An underscore that is not part of an identifier. -/
  | underscore
  /-- A letter or an underscore, then letters, digits and underscores. -/
  | identifier
  /-- Digits, with a minus sign or without. -/
  | integer
  /-- An integer with a point and more digits behind it. -/
  | float
  /-- A text between two equal quotes. -/
  | quotation
  /-- A quotation that no quote closes; it runs to the end. -/
  | unterminated
  /-- Blanks between other tokens. -/
  | whitespace
  /-- A character that belongs to no other token. -/
  | unknown
  /-- The end of the text. -/
  | finish
  deriving DecidableEq

namespace TokenTag

/-- What a token of this kind is called in messages. -/
def name : TokenTag → String
  | leftParen => "`(`"
  | rightParen => "`)`"
  | leftBracket => "`[`"
  | rightBracket => "`]`"
  | colon => "`:`"
  | pathSeparator => "path separator"
  | comma => "`,`"
  | underscore => "`_`"
  | identifier => "identifier"
  | integer => "integer"
  | float => "float"
  | quotation => "string"
  | unterminated => "unterminated string"
  | whitespace => "whitespace"
  | unknown => "unknown character"
  | finish => "end of pattern"

/-- Whether a token of this kind is a literal. -/
def isLiteral : TokenTag → Bool
  | quotation | integer | float => true
  | _ => false

end TokenTag

/-- A token with the characters it covers. -/
structure Token where
  tag : TokenTag
  chars : List Char
  deriving DecidableEq

namespace Token

/-- The token behind the last character. -/
def finish : Token := ⟨.finish, []⟩

/-- The number of bytes a token covers, counted as far as a span can reach. -/
def byteLength (token : Token) : Nat :=
  min (Motif.byteLength token.chars) Span.limit

end Token

end Motif
