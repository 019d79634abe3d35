import Motif.Deferred
import Motif.Evaluation
import Motif.Number.Word
import Motif.Pattern.Outline
import Motif.Pattern.Stored
import Motif.Pattern.Text
import Motif.Proofs.Accumulation
import Motif.Proofs.BuilderSteps
import Motif.Proofs.CursorBounds
import Motif.Proofs.EqualLiterals
import Motif.Proofs.EqualValues
import Motif.Proofs.Families
import Motif.Proofs.FrontMatching
import Motif.Proofs.LexemeCursor
import Motif.Proofs.ListMatching
import Motif.Proofs.Literal
import Motif.Proofs.Lookup
import Motif.Proofs.Number.Equality
import Motif.Proofs.Numerals
import Motif.Proofs.Pattern.Blanks
import Motif.Proofs.Pattern.Canonical
import Motif.Proofs.Pattern.Location
import Motif.Proofs.Pattern.Storage
import Motif.Proofs.Precedence
import Motif.Proofs.Quotations
import Motif.Proofs.Refusal
import Motif.Proofs.Scope
import Motif.Proofs.Token.Longest
import Motif.Proofs.ValueEquality
import Motif.Text.ByteCursor
import Motif.Transition
