/-
# The parts of a template

A template is plain text with references between double braces, such as
`{{ posts | postify-each | join-lines }}`.  A reference names a variable and the filters that
its value is sent through.  This module holds the parts; `Template/Parser` finds them in a text.

* `Reference.ofBody`: how the text between the braces is read.
-/
import SinglePage.Text.Blank

namespace SinglePage

/-- A range of bytes: from `start` up to, and without, `stop`. -/
structure Span where
  start : Nat
  stop : Nat
  deriving DecidableEq

/-- **A reference**: the key of a variable, the names of the filters to send its value
through, and the bytes of the template that the reference takes, braces included. -/
structure Reference where
  key : String
  filters : List String
  span : Span
  deriving DecidableEq

/-- **A piece of a template**: text to be copied, or a reference to be evaluated. -/
inductive Segment where
  | literal (text : String)
  | reference (reference : Reference)
  deriving DecidableEq

/-- The reference with the given text between its braces.  The text is cut at every `|` and
each piece is trimmed; the first piece is the key, the others are the filters.  Empty pieces
are kept. -/
def Reference.ofBody (body : List Char) (span : Span) : Reference :=
  let pieces := (body.splitOn '|').map fun piece => String.ofList (Text.trim piece)
  ⟨pieces.headD "", pieces.tail, span⟩

end SinglePage
