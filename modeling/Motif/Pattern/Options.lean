import Motif.Pattern.TypePath

/-! Which names a pattern may use as type tags. -/

namespace Motif

/-- Options for reading patterns. -/
structure PatternOptions where
  /-- The only type names there are, when they are restricted at all. -/
  knownTypes : Option (List String) := none

namespace PatternOptions

/-- Restricts type tags to some names, besides those that earlier restrictions allow. -/
def withKnownTypes (names : List String) (options : PatternOptions) : PatternOptions :=
  -- Even a restriction to no name at all is one.
  ⟨some (options.knownTypes.getD [] ++ names)⟩

/-- Whether a text names a type: its last segment is capitalised, or it is one of the known. -/
def isTypeName (options : PatternOptions) (name : String) : Bool :=
  match options.knownTypes with
  -- Known names are compared as a whole, with the path before the last segment.
  | some known => known.contains name
  | none =>
    match (lastSegment name).toList with
    | first :: _ => first.isUpper
    | [] => false

end PatternOptions

end Motif
