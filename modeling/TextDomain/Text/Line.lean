import TextDomain.Text.Basic

/-!
# Lines

A line ends with CR LF, with a CR that no LF follows, or with an LF. Offsets
of lines are counted from the start of the text.

## Main results

* `length_lineStarts` — there is one line more than there are terminators.
-/

namespace TextDomain.Text

/-- The offsets just after each line terminator, for a text that begins at
offset `start`. CR LF is one terminator. -/
def lineStartsAfter (start : Nat) : Text → List Nat
  | [] => []
  | '\r' :: '\n' :: rest => (start + 2) :: lineStartsAfter (start + 2) rest
  | c :: rest =>
    if c = '\r' ∨ c = '\n' then (start + 1) :: lineStartsAfter (start + 1) rest
    else lineStartsAfter (start + 1) rest

/-- The offset at which each line begins; the first line begins at zero. -/
def lineStarts (t : Text) : List Nat := 0 :: lineStartsAfter 0 t

/-- The same lines, each ended by an LF alone. -/
def unifyTerminators : Text → Text
  | [] => []
  | '\r' :: '\n' :: rest => '\n' :: unifyTerminators rest
  | c :: rest => (if c = '\r' then '\n' else c) :: unifyTerminators rest

/-- The number of line terminators. -/
def terminatorCount : Text → Nat
  | [] => 0
  | '\r' :: '\n' :: rest => terminatorCount rest + 1
  | c :: rest => if c = '\r' ∨ c = '\n' then terminatorCount rest + 1 else terminatorCount rest

/-- There is one line more than there are terminators. -/
theorem length_lineStarts (t : Text) : (lineStarts t).length = terminatorCount t + 1 := by
  suffices h : ∀ start, (lineStartsAfter start t).length = terminatorCount t by
    simp [lineStarts, h]
  fun_induction terminatorCount t with
  | case1 => simp [lineStartsAfter]
  | case2 rest ih => intro start; simp [lineStartsAfter, ih]
  | case3 c rest hnot h ih =>
    intro start
    rw [lineStartsAfter]
    · simp [h, ih]
    · exact hnot
  | case4 c rest hnot h ih =>
    intro start
    rw [lineStartsAfter]
    · simp [h, ih]
    · exact hnot

end TextDomain.Text
