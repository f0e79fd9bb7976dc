import TextDomain.Text.Utf8

/-!
# Positions in source

A position is a line, counted from one, and a column: the number of UTF-8
bytes between the beginning of the line and the position. Only LF ends a line
here; sources are brought into that form before they are read.
-/

namespace TextDomain

/-- A position in source. -/
structure Position where
  /-- The line, counted from one. -/
  line : Nat
  /-- The bytes before the position on its line. -/
  column : Nat
deriving DecidableEq

namespace Position

/-- The beginning of a source. -/
def origin : Position := ⟨1, 0⟩

/-- The position after one more character. -/
def next (p : Position) (c : Char) : Position :=
  if c = '\n' then ⟨p.line + 1, 0⟩ else ⟨p.line, p.column + Text.charWidth c⟩

/-- The position after a text. -/
def after (p : Position) (t : Text) : Position := t.foldl next p

@[simp] theorem after_append (p : Position) (t u : Text) :
    p.after (t ++ u) = (p.after t).after u := by
  simp [after]

end Position

/-- The extent of a piece of source. -/
structure Extent where
  /-- The position of its first character. -/
  start : Position
  /-- The position after its last character. -/
  stop : Position

/-- What is left of a source, and where it begins. -/
structure Cursor where
  /-- The remaining text. -/
  rest : Text
  /-- The position of its first character. -/
  position : Position

namespace Cursor

/-- Passes over the first `n` characters. -/
def advance (c : Cursor) (n : Nat) : Cursor :=
  ⟨c.rest.drop n, c.position.after (c.rest.take n)⟩

/-- Passes over the characters that satisfy `p`. -/
def skipWhile (c : Cursor) (p : Char → Bool) : Cursor :=
  ⟨c.rest.dropWhile p, c.position.after (c.rest.takeWhile p)⟩

end Cursor

end TextDomain
