import TextDomain.Proofs.Source.Line
import TextDomain.Source.Index

/-!
# From offsets to positions and back

A position counts lines and, within a line, bytes; an offset counts characters.
`positionAt` gives the position of an offset: the number of the last line that
begins at or before it, and the width of what stands between. A source index
goes the other way, and gives back the offset from which the position came,
whatever terminators the text mixes and however wide its characters are.

The one thing the index has to get right is how much of the text to look at
before it cuts at a byte: as many characters as there are bytes are always
enough, since no character is narrower than a byte.

## Main results

* `offset_of_drop_eq` — a column is the width of a beginning of the line.
* `offset_positionAt` — the index undoes `positionAt`.
* `span_placementAt` — the same for both ends of a piece of source, together
  with its location.
-/

namespace TextDomain

/-- The position of an offset: its line and the bytes before it on that line. -/
def positionAt (t : Text) (i : Nat) : Position where
  line := t.lineNumberAt i
  column := Text.byteWidth ((t.drop (t.lineStartAt i)).take (i - t.lineStartAt i))

namespace SourceIndex

/-! ## One end -/

/-- Looking at as many characters as there are bytes is enough to find a
beginning of the line. -/
theorem takeWithin_byteWidth {text w v : Text} {start : Nat} (h : text.drop start = w ++ v) :
    takeWithin text start (Text.byteWidth w) = w := by
  have hlength := Text.length_le_byteWidth w
  have hline : (w ++ v).take (Text.byteWidth w) = w ++ v.take (Text.byteWidth w - w.length) := by
    rw [List.take_append, List.take_of_length_le hlength]
  have hbound : boundIn text.length (start + Text.byteWidth w) - start = Text.byteWidth w := by
    rw [boundIn, if_pos (by omega)]
    omega
  simp only [takeWithin, hbound, h, hline]
  rw [boundIn, if_pos (by omega)]
  exact Text.takeBytes_byteWidth w _

/-- If the column is the width of a beginning of the line, the offset is the
end of that beginning. -/
theorem offset_of_drop_eq {text file w v : Text} {line start : Nat} (hpos : 1 ≤ line)
    (hline : text.lineStarts[line - 1]? = some start) (h : text.drop start = w ++ v) :
    (ofText text file).offset line (Text.byteWidth w) = .ok (start + w.length) := by
  have hindex : ((line : Int) - 1).toNat = line - 1 := by omega
  rw [offset, if_pos (by omega), hindex]
  simp only [ofText, hline, takeWithin_byteWidth h]

theorem one_le_lineNumberAt (t : Text) (i : Nat) : 1 ≤ t.lineNumberAt i := by
  rw [Text.lineNumberAt_eq]
  omega

/-- The index undoes `positionAt`. -/
theorem offset_positionAt (text file : Text) {i : Nat} (h : i ≤ text.length) :
    (ofText text file).offset (positionAt text i).line (positionAt text i).column = .ok i := by
  have hle := Text.lineStartAt_le text i
  have hprefix := (List.take_append_drop (i - text.lineStartAt i)
    (text.drop (text.lineStartAt i))).symm
  have hoffset := @offset_of_drop_eq text file _ _ _ _ (one_le_lineNumberAt text i)
    (Text.getElem?_lineStarts h) hprefix
  have hlength : text.lineStartAt i +
      ((text.drop (text.lineStartAt i)).take (i - text.lineStartAt i)).length = i := by
    rw [List.length_take, List.length_drop]
    omega
  rw [hlength] at hoffset
  exact hoffset

/-- Columns of a location count the characters between the beginning of the
line and the offset. -/
theorem columnOn_positionAt (text file : Text) {i : Nat} (h : i ≤ text.length) :
    (ofText text file).columnOn i (positionAt text i).line =
      (i - text.lineStartAt i : Nat) + 1 := by
  have hindex : ((text.lineNumberAt i : Int) - 1).toNat = text.lineNumberAt i - 1 := by omega
  have hle := Text.lineStartAt_le text i
  simp only [columnOn, positionAt, ofText, hindex, Text.getElem?_lineStarts h, Option.getD_some]
  omega

/-! ## Both ends -/

theorem span_of_offsets {index : SourceIndex} {form : Text} {line column endLine endColumn : Int}
    {start stop : Nat} (hstart : index.offset line column = .ok start)
    (hstop : index.offset endLine endColumn = .ok stop) :
    index.span form ⟨line, column, some endLine, some endColumn⟩ =
      .ok (start, stop, ⟨index.file, line, index.columnOn start line, endLine,
        index.columnOn stop endLine⟩) := by
  simp only [span, hstart, hstop]
  rfl

/-- The placement of the text between two offsets. -/
def placementAt (t : Text) (i j : Nat) : Placement where
  line := (positionAt t i).line
  column := (positionAt t i).column
  endLine := some (positionAt t j).line
  endColumn := some (positionAt t j).column

/-- The location of the text between two offsets: its lines, and columns that
count characters from one. -/
def locationAt (t file : Text) (i j : Nat) : Location where
  file := file
  lineStart := t.lineNumberAt i
  colStart := (i - t.lineStartAt i : Nat) + 1
  lineEnd := t.lineNumberAt j
  colEnd := (j - t.lineStartAt j : Nat) + 1

/-- A piece of source that is placed by the positions of its ends is found
where it stands. -/
theorem span_placementAt (text file form : Text) {i j : Nat} (hij : i ≤ j)
    (hj : j ≤ text.length) :
    (ofText text file).span form (placementAt text i j) =
      .ok (i, j, locationAt text file i j) := by
  have hi : i ≤ text.length := Nat.le_trans hij hj
  have hstart := offset_positionAt text file hi
  have hstop := offset_positionAt text file hj
  rw [placementAt, span_of_offsets hstart hstop, columnOn_positionAt text file hi,
    columnOn_positionAt text file hj]
  rfl

/-- The last two lines of a text with all three terminators, and characters of
one to four bytes before both ends. -/
theorem span_placementAt_mixed_terminators :
    5 ≤ 11 ∧ 11 ≤ "a\r\n\ré𝒳\rb\n€c".toList.length ∧
      placementAt "a\r\n\ré𝒳\rb\n€c".toList 5 11 = ⟨3, 2, some 5, some 4⟩ ∧
      (ofText "a\r\n\ré𝒳\rb\n€c".toList []).span [] ⟨3, 2, some 5, some 4⟩ =
        .ok (5, 11, ⟨[], 3, 2, 5, 3⟩) := by
  have hplace : placementAt "a\r\n\ré𝒳\rb\n€c".toList 5 11 = ⟨3, 2, some 5, some 4⟩ := rfl
  have hlocation : locationAt "a\r\n\ré𝒳\rb\n€c".toList [] 5 11 = ⟨[], 3, 2, 5, 3⟩ := rfl
  have hspan := span_placementAt "a\r\n\ré𝒳\rb\n€c".toList [] [] (i := 5) (j := 11)
    (by decide) (by decide)
  rw [hplace, hlocation] at hspan
  exact ⟨by decide, by decide, hplace, hspan⟩

end SourceIndex

end TextDomain
