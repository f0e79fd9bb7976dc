import TextDomain.Text.Basic

/-!
# The markers of a string literal

A plain string literal is an opening marker — letters and a quote —, a body,
and the quote again. To replace the value of a literal it is enough to know
the widths of the two markers.

The quote is one or three characters wide, three wherever three equal quote
characters stand in a row. Widths are known only for a single piece in whose
body the quote does not occur; where several pieces are written side by side
or the quote is escaped inside, there is no answer.
-/

namespace TextDomain.Literal

/-- The widths of the opening and the closing marker. -/
structure Markers where
  /-- Letters and opening quote. -/
  opening : Nat
  /-- Closing quote. -/
  closing : Nat
deriving DecidableEq

/-- Whether a character is one of the letters before a plain literal. -/
def isMarkerLetter (c : Char) : Bool := c == 'r' || c == 'R' || c == 'u' || c == 'U'

/-- The quotes, the wide ones first. -/
def quotes : List Text := [['\'', '\'', '\''], ['"', '"', '"'], ['\''], ['"']]

/-- The quote at the beginning of a text, as wide as possible. -/
def leadingQuote? (t : Text) : Option Text := quotes.find? fun q => Text.startsWith q t

/-- The markers of a literal of which the source is known. -/
def markersOf? (source : Text) : Option Markers :=
  let letters := source.takeWhile isMarkerLetter
  let rest := source.dropWhile isMarkerLetter
  match leadingQuote? rest with
  | none => none
  | some quote =>
    let body := rest.drop quote.length
    if body.length < quote.length || !Text.endsWith quote body then none
    else if Text.occursIn quote (body.take (body.length - quote.length)) then none
    else some ⟨letters.length + quote.length, quote.length⟩

/-- The markers of a literal; without its source, one character on each side. -/
def markers? (source : Text) : Option Markers :=
  if source.isEmpty then some ⟨1, 1⟩ else markersOf? source

end TextDomain.Literal
