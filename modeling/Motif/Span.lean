import Motif.Text.Bytes
import Motif.Text.Digits

/-! Byte ranges within a text. -/

namespace Motif

/-- The byte range from `start` up to but not including `stop`. -/
structure Span where
  start : Nat
  stop : Nat
  deriving DecidableEq, Inhabited

namespace Span

/-- The largest offset a span can name; longer texts are measured up to here. -/
def limit : Nat := 0xFFFFFFFF

/-- The empty range at the very beginning. -/
def origin : Span := ⟨0, 0⟩

/-- The range of `length` bytes from `start`, cut off at the largest offset. -/
def ofLength (start length : Nat) : Span :=
  ⟨start, min (start + length) limit⟩

/-- The number of bytes in a range. -/
def length (span : Span) : Nat :=
  -- Subtraction stops at zero, so a range that runs backwards has no bytes.
  span.stop - span.start

/-- Whether a range holds no byte. -/
def isEmpty (span : Span) : Bool :=
  span.stop ≤ span.start

/-- The text in a range. -/
def slice (span : Span) (source : String) : String :=
  -- A range that does not fit the text, or would split a character, has no text.
  String.ofList ((sliceBytes? span.start span.stop source.toList).getD [])

/-- The range from the start of one span to the end of another. -/
def cover (first last : Span) : Span :=
  ⟨first.start, last.stop⟩

/-- The two offsets with two dots between them. -/
def text (span : Span) : String :=
  countText span.start ++ ".." ++ countText span.stop

end Span

end Motif
