import TextDomain.Span
import TextDomain.Text.Line
import TextDomain.Text.Utf8

/-!
# From lines and bytes to offsets

Syntax trees place their nodes by line and byte column, while spans and
locations count characters. A `SourceIndex` knows where the lines of a text
begin and converts. It accepts any integers: a line that the text does not
have is an error, a column past the text leads to its end, a column inside a
character to the beginning of that character, and a negative column counts
back from the end.

## Main results

* `length_takeWithin_le` — no column leads past the end of the text.
-/

namespace TextDomain

/-- A text with the offsets of its lines. -/
structure SourceIndex where
  /-- The text. -/
  text : Text
  /-- The name of the file for messages and locations. -/
  file : Text
  /-- The offset at which each line begins. -/
  lineStarts : List Nat

/-- A place outside a list. -/
structure LineOutOfRange where

namespace SourceIndex

/-- The index of a text. -/
def ofText (text file : Text) : SourceIndex := ⟨text, file, text.lineStarts⟩

/-- A bound on a sequence of `length` elements: a negative one counts from the
end, and none is less than zero. -/
def boundIn (length : Nat) (n : Int) : Nat :=
  if 0 ≤ n then n.toNat else (length + n).toNat

/-- The characters from offset `start` on whose bytes fit into `byteColumn`. -/
def takeWithin (text : Text) (start : Nat) (byteColumn : Int) : Text :=
  let line := (text.drop start).take (boundIn text.length (start + byteColumn) - start)
  Text.takeBytes (boundIn (Text.byteWidth line) byteColumn) line

/-- The offset of a line and byte column. -/
def offset (index : SourceIndex) (line byteColumn : Int) : Except ContractError Nat :=
  if 1 ≤ line then
    match index.lineStarts[(line - 1).toNat]? with
    | some start => .ok (start + (takeWithin index.text start byteColumn).length)
    | none => .error (.lineOutside line index.file)
  else .error (.lineOutside line index.file)

/-- The beginning of a line; lines before the first count from the last. -/
def lineStart (index : SourceIndex) (line : Int) : Except LineOutOfRange Nat :=
  let place := line - 1
  let found :=
    if 0 ≤ place then index.lineStarts[place.toNat]?
    else if 0 ≤ place + index.lineStarts.length then
      index.lineStarts[(place + index.lineStarts.length).toNat]?
    else none
  match found with
  | some start => .ok start
  | none => .error {}

/-- The column of an offset on a line, counted from one. -/
def column (index : SourceIndex) (offset line : Int) : Except LineOutOfRange Int :=
  (index.lineStart line).map fun start => offset - start + 1

/-- The column of an offset on a line that the text is known to have. -/
def columnOn (index : SourceIndex) (offset : Nat) (line : Int) : Int :=
  offset - (index.lineStarts[(line - 1).toNat]?.getD 0) + 1

/-- A piece of source as a host places it: the position of its end may be
unknown. -/
structure Placement where
  /-- The line of the first character. -/
  line : Int
  /-- Its byte column. -/
  column : Int
  /-- The line of the end. -/
  endLine : Option Int
  /-- The byte column of the end. -/
  endColumn : Option Int

/-- The two offsets of a piece of source and its location. The name of its
form appears in the error about a missing end. -/
def span (index : SourceIndex) (form : Text) (p : Placement) :
    Except ContractError (Nat × Nat × Location) := do
  match p.endLine, p.endColumn with
  | some endLine, some endColumn =>
    let start ← index.offset p.line p.column
    let stop ← index.offset endLine endColumn
    .ok (start, stop,
      { file := index.file
        lineStart := p.line
        colStart := index.columnOn start p.line
        lineEnd := endLine
        colEnd := index.columnOn stop endLine })
  | _, _ => .error (.unpositioned form index.file)

theorem length_takeBytes_le (n : Nat) (t : Text) : (Text.takeBytes n t).length ≤ t.length := by
  have h := congrArg List.length (Text.takeBytes_append_dropBytes n t)
  simp only [List.length_append] at h
  omega

/-- The characters taken lie inside the text. -/
theorem length_takeWithin_le (text : Text) (start : Nat) (byteColumn : Int) :
    (takeWithin text start byteColumn).length ≤ text.length - start := by
  refine Nat.le_trans (length_takeBytes_le _ _) ?_
  simp only [List.length_take, List.length_drop]
  omega

end SourceIndex

end TextDomain
