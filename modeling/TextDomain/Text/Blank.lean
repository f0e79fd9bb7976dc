import TextDomain.Text.CodePoints

/-!
# Blank characters

The white space of Unicode together with the four information separators
U+001C to U+001F. Placeholders in message templates are trimmed of these.
-/

namespace TextDomain.Text

/-- The blank code points. -/
def blanks : CodePoints := .ofLines
  ["9-d 1c-20 85 a0 1680 2000-200a 2028-2029 202f 205f 3000"]

/-- Whether a character is blank. -/
def isBlank (c : Char) : Bool := blanks.contains c.toNat

/-- The text without the blanks at its ends. -/
def strip (t : Text) : Text :=
  ((t.dropWhile isBlank).reverse.dropWhile isBlank).reverse

end TextDomain.Text
