import Motif.Lexeme
import Motif.Pattern.Binders
import Motif.Pattern.Error
import Motif.Pattern.Options

/-!
Reading patterns from text. The first lexeme selects the form, and no two forms overlap:

* a lone underscore, a literal, or a type path of identifiers between path separators;
* a cons pattern, which is names in parentheses with a colon between any two, where the last one
  may be an underscore;
* a list pattern, which is slots in brackets with a comma between any two, each of them a literal,
  a name, an underscore or a cons pattern.
-/

namespace Motif

/-- Something read from lexemes and the lexemes behind it, or why there is nothing to read. -/
abbrev Reading (α : Type) := Except PatternRejection (α × List Lexeme)

namespace Lexeme

/-- The rejection of a lexeme that stands where another kind belongs. -/
def unexpected (lexeme : Lexeme) (expected : String) : PatternRejection :=
  -- An open quotation is the likelier mistake, whatever was expected.
  if lexeme.tag = .unterminated then ⟨.unterminatedString, lexeme.span⟩
  else ⟨.unexpectedToken expected lexeme.found, lexeme.span⟩

/-- The name that a lexeme binds: it starts with a lowercase letter and is not taken yet. -/
def freshBinder (taken : List String) (lexeme : Lexeme) : Except PatternRejection String :=
  -- The form of the name is checked first, so a bad name is never called a duplicate.
  if ¬ begins Char.isLower lexeme.text.toList then
    .error ⟨.invalidBinder lexeme.text, lexeme.span⟩
  else if lexeme.text ∈ taken then .error ⟨.duplicateBinder lexeme.text, lexeme.span⟩
  else .ok lexeme.text

/-- The literal that a lexeme writes. -/
def literal (lexeme : Lexeme) : Except PatternRejection Literal :=
  match lexeme.tag with
  | .quotation => .ok (.quoted (String.ofList (unquote lexeme.text.toList)))
  | .integer | .float =>
    match Literal.numeral? lexeme.text with
    | some literal => .ok literal
    | none => .error ⟨.invalidNumber lexeme.text, lexeme.span⟩
  | .unterminated => .error ⟨.unterminatedString, lexeme.span⟩
  | _ => .error ⟨.unexpectedToken "a literal" ("`" ++ lexeme.text ++ "`"), lexeme.span⟩

end Lexeme

namespace ConsPattern

/-- Reads the segments of a cons pattern behind `(` and the heads read so far. -/
def read (finish : Lexeme) (taken heads : List String) : List Lexeme → Reading ConsPattern
  | [] => .error (finish.unexpected "a binder or `_`")
  | segment :: rest =>
    if segment.tag ≠ .identifier ∧ segment.tag ≠ .underscore then
      .error (segment.unexpected "a binder or `_`")
    else
      match rest with
      | [] => .error (finish.unexpected "`:` or `)`")
      | mark :: behind =>
        if mark.tag = .colon then
          -- Another segment follows, so this one is a head and has to have a name.
          if segment.tag = .underscore then
            .error ⟨.unexpectedToken "a binder" "`_`", segment.span⟩
          else
            match segment.freshBinder (taken ++ heads) with
            | .error rejection => .error rejection
            | .ok name => read finish taken (heads ++ [name]) behind
        -- No colon follows, so this segment is the tail.
        else if mark.tag ≠ .rightParen then .error (mark.unexpected "`:` or `)`")
        else if heads.isEmpty then .error ⟨.missingTail, segment.span.cover mark.span⟩
        else if segment.tag = .underscore then .ok (⟨heads, .wildcard⟩, behind)
        else
          match segment.freshBinder (taken ++ heads) with
          | .error rejection => .error rejection
          | .ok name => .ok (⟨heads, .binder name⟩, behind)

/-- What lies behind a cons pattern is shorter than what it was read from. -/
theorem read_shorter {finish : Lexeme} {taken heads : List String} {lexemes behind : List Lexeme}
    {cons : ConsPattern} (done : read finish taken heads lexemes = .ok (cons, behind)) :
    behind.length < lexemes.length := by
  -- Every round takes a segment and the mark behind it.
  fun_induction read finish taken heads lexemes with
  | case6 =>
    rename_i ih
    have := ih done
    simp only [List.length_cons]
    omega
  | case9 | case11 =>
    cases done
    simp only [List.length_cons]
    omega
  | _ => cases done

end ConsPattern

/-- A result that was computed from another comes from one that was there. -/
theorem map_eq_ok_iff {ε α β : Type} {result : Except ε α} {f : α → β} {value : β} :
    result.map f = .ok value ↔ ∃ inner, result = .ok inner ∧ f inner = value := by
  cases result <;> simp [Except.map]

namespace Slot

/-- Reads one position of a list pattern. -/
def read (finish : Lexeme) (taken : List String) : List Lexeme → Reading Slot
  | [] => .error (finish.unexpected "a literal, binder, `_` or cons pattern")
  | first :: rest =>
    match first.tag with
    | .quotation | .integer | .float | .unterminated =>
      first.literal.map fun value => (.literal value, rest)
    | .underscore => .ok (.wildcard, rest)
    | .identifier => (first.freshBinder taken).map fun name => (.binder name, rest)
    | .leftParen =>
      (ConsPattern.read finish taken [] rest).map fun (parts, behind) => (.cons parts, behind)
    | .leftBracket => .error ⟨.nestedList, first.span⟩
    | _ => .error (first.unexpected "a literal, binder, `_` or cons pattern")

/-- What lies behind a slot is shorter than what it was read from. -/
theorem read_shorter {finish : Lexeme} {taken : List String} {lexemes behind : List Lexeme}
    {slot : Slot} (done : read finish taken lexemes = .ok (slot, behind)) :
    behind.length < lexemes.length := by
  cases lexemes with
  | nil => cases done
  | cons first rest =>
    -- A slot takes at least its first lexeme.
    suffices behind.length ≤ rest.length by simpa using Nat.lt_succ_of_le this
    simp only [read] at done
    split at done
    case h_5 => cases done; exact Nat.le_refl _
    -- Only a cons pattern takes more than one.
    case h_7 =>
      obtain ⟨⟨parts, after⟩, found, same⟩ := map_eq_ok_iff.mp done
      cases same
      exact Nat.le_of_lt (ConsPattern.read_shorter found)
    case h_8 | h_9 => cases done
    all_goals
      obtain ⟨_, _, same⟩ := map_eq_ok_iff.mp done
      cases same
      exact Nat.le_refl _

/-- Reads slots up to the closing bracket, of which there is at least one. -/
def readAll (finish : Lexeme) (taken : List String) (lexemes : List Lexeme) :
    Reading (List Slot) :=
  match _ : read finish taken lexemes with
  | .error rejection => .error rejection
  | .ok (_, []) => .error (finish.unexpected "`,` or `]`")
  | .ok (slot, mark :: behind) =>
    if mark.tag = .comma then
      -- Names of this slot are taken for all that follow.
      (readAll finish (taken ++ slot.binders) behind).map fun (slots, after) =>
        (slot :: slots, after)
    else if mark.tag = .rightBracket then .ok ([slot], behind)
    else .error (mark.unexpected "`,` or `]`")
termination_by lexemes.length
decreasing_by
  have := read_shorter ‹_›
  simp only [List.length_cons] at this
  omega

end Slot

namespace Pattern

/-- Reads the segments of a type path behind its segment `last`, and gives the last of them. -/
def readPath (finish last : Lexeme) : List Lexeme → Reading Lexeme
  | [] => .ok (last, [])
  | [mark] =>
    if mark.tag = .pathSeparator then .error (finish.unexpected "a type name segment")
    else .ok (last, [mark])
  | mark :: segment :: rest =>
    -- Without a separator the path is over, and what follows belongs to others.
    if mark.tag ≠ .pathSeparator then .ok (last, mark :: segment :: rest)
    else if segment.tag ≠ .identifier then .error (segment.unexpected "a type name segment")
    else readPath finish segment rest

/-- The type tag that a path from one lexeme to another writes, blanks between them included. -/
def ofPath (options : PatternOptions) (source : String) (first last : Lexeme) :
    Except PatternRejection Pattern :=
  let span := first.span.cover last.span
  let name := span.slice source
  if options.isTypeName name then .ok (.typeTag name) else .error ⟨.unknownType name, span⟩

/-- Reads the slots of a list pattern behind `[`. -/
def readList (finish : Lexeme) (lexemes : List Lexeme) : Reading Pattern :=
  match lexemes with
  -- A list that is not closed at once has at least one slot.
  | [] => (Slot.readAll finish [] []).map fun (slots, behind) => (.list slots, behind)
  | first :: rest =>
    if first.tag = .rightBracket then .ok (.list [], rest)
    else (Slot.readAll finish [] (first :: rest)).map fun (slots, behind) => (.list slots, behind)

/-- Reads one pattern from the front of a text's lexemes. -/
def read (options : PatternOptions) (source : String) (finish : Lexeme) :
    List Lexeme → Reading Pattern
  | [] => .error ⟨.empty, finish.span⟩
  | first :: rest =>
    match first.tag with
    | .underscore => .ok (.wildcard, rest)
    | .leftParen =>
      (ConsPattern.read finish [] [] rest).map fun (parts, behind) => (.cons parts, behind)
    | .leftBracket => readList finish rest
    | .quotation | .integer | .float | .unterminated =>
      first.literal.map fun value => (.literal value, rest)
    | .identifier =>
      match readPath finish first rest with
      | .error rejection => .error rejection
      | .ok (last, behind) => (ofPath options source first last).map (·, behind)
    | _ => .error (first.unexpected "a pattern")

/-- Reads a pattern that takes up all lexemes of a text. -/
def readWhole (options : PatternOptions) (source : String) :
    Except PatternRejection Pattern :=
  -- What follows a pattern is an error only after the pattern itself was read.
  match read options source (.finish source) (Lexeme.ofText source) with
  | .error rejection => .error rejection
  | .ok (pattern, []) => .ok pattern
  | .ok (_, extra :: _) => .error ⟨.trailingInput, extra.span⟩

/-- The pattern that a text writes under some options. -/
def parseWith (options : PatternOptions) (source : String) : Except PatternError Pattern :=
  (readWhole options source).mapError fun rejection => ⟨rejection, source⟩

/-- The pattern that a text writes. -/
def parse (source : String) : Except PatternError Pattern :=
  parseWith {} source

end Pattern

end Motif
