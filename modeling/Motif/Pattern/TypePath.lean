/-! Type paths: names whose segments are separated by two colons or a backslash. -/

namespace Motif

/-- What lies behind the last double colon of a text, or the whole text. -/
def afterDoubleColon (text : List Char) : List Char :=
  -- Looking from the right, the first pair found is the last one, also among three colons.
  go [] text.reverse
where
  go (taken : List Char) : List Char → List Char
    | ':' :: ':' :: _ => taken
    | [] => taken
    | char :: rest => go (char :: taken) rest

/-- What lies behind the last backslash of a text, or the whole text. -/
def afterBackslash (text : List Char) : List Char :=
  (text.reverse.takeWhile (· != '\\')).reverse

/-- The last segment of a type path; a bare name is its own last segment. -/
def lastSegment (path : String) : String :=
  -- A backslash matters only behind the last double colon.
  String.ofList (afterBackslash (afterDoubleColon path.toList))

end Motif
