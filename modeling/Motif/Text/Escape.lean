import Motif.Text.Combining
import Motif.Text.Unprintable

/-! Showing text on one line, with escapes for what would not be readable. -/

namespace Motif

/-- The escape that names a character by its code point. -/
def codePointEscape (char : Char) : String :=
  "\\u\x7b" ++ String.ofList (Nat.toDigits 16 char.toNat) ++ "\x7d"

/-- A character in text that stays within printable ASCII. -/
def asciiEscape (char : Char) : String :=
  match char with
  | '\t' => "\\t"
  | '\r' => "\\r"
  | '\n' => "\\n"
  -- Both quotes are escaped, so that the text may stand between either.
  | '\'' => "\\'"
  | '"' => "\\\""
  | '\\' => "\\\\"
  | _ => if ' ' ≤ char ∧ char ≤ '~' then String.singleton char else codePointEscape char

/-- A character between double quotes in an outline, where every visible one stays. -/
def visibleEscape (char : Char) : String :=
  match char with
  | '\x00' => "\\0"
  | '\t' => "\\t"
  | '\r' => "\\r"
  | '\n' => "\\n"
  -- A single quote cannot end the text and is left alone.
  | '"' => "\\\""
  | '\\' => "\\\\"
  | _ =>
    -- A combining character would be drawn into its neighbour, whatever that is.
    if isCombining char || isUnprintable char then codePointEscape char
    else String.singleton char

/-- A text in double quotes, in printable ASCII alone. -/
def asciiQuoted (text : String) : String :=
  "\"" ++ String.join (text.toList.map asciiEscape) ++ "\""

/-- A text in double quotes, with its visible characters as they are. -/
def visibleQuoted (text : String) : String :=
  "\"" ++ String.join (text.toList.map visibleEscape) ++ "\""

end Motif
