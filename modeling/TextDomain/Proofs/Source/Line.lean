import Mathlib.Data.Nat.Count
import TextDomain.Source.Position
import TextDomain.Text.Line

/-!
# Where lines begin

The offsets at which lines begin are found by one scan that takes CR LF as a
unit. Whether a line begins at an offset can also be told from the two
characters around it: the one before ends a line, unless it is a CR with an LF
behind it. `BeginsLine` is this second description, and the scan finds exactly
the offsets that it admits, in ascending order.

The line of an offset is then the number of lines that begin at or before it,
and its column the width of the text between the last of these beginnings and
the offset.

## Main results

* `lineStarts_eq_filter` — the scan finds all beginnings of lines.
* `getElem?_lineStarts` — the line of an offset begins at its last beginning.
* `lt_of_lines_lt` — the text of a line lies before every later line.
-/

namespace TextDomain.Text

variable {c : Char} {t u w : Text}

/-! ## Beginnings of lines -/

/-- A line begins at an offset: at the beginning of the text, after an LF, and
after a CR that no LF follows. -/
def BeginsLine (t : Text) (i : Nat) : Prop :=
  i = 0 ∨ t[i - 1]? = some '\n' ∨ (t[i - 1]? = some '\r' ∧ t[i]? ≠ some '\n')

instance (t : Text) (i : Nat) : Decidable (BeginsLine t i) :=
  inferInstanceAs (Decidable (_ ∨ _ ∨ (_ ∧ _)))

theorem beginsLine_zero (t : Text) : BeginsLine t 0 := .inl rfl

/-- A line begins right after an LF. -/
theorem beginsLine_after_lf (u r : Text) : BeginsLine (u ++ '\n' :: r) (u.length + 1) := by
  simp [BeginsLine]

/-- Between a CR and an LF no line begins. -/
theorem not_beginsLine_in_crlf (u r : Text) :
    ¬ BeginsLine (u ++ '\r' :: '\n' :: r) (u.length + 1) := by
  simp [BeginsLine]

/-- The case of the scan in which no CR LF is in front. -/
theorem head?_ne_of_not_crlf (h : ∀ rest, c = '\r' → t = '\n' :: rest → False) :
    c = '\r' → t.head? ≠ some '\n' := by
  intro hc hhead
  obtain ⟨rest, rfl⟩ := List.head?_eq_some_iff.1 hhead
  exact h rest hc rfl

/-- After any other character a line begins exactly if it is a CR or an LF. -/
theorem beginsLine_after_iff {r : Text} (u : Text)
    (h : ∀ r', c = '\r' → r = '\n' :: r' → False) :
    BeginsLine (u ++ c :: r) (u.length + 1) ↔ c = '\r' ∨ c = '\n' := by
  have hnext : (u ++ c :: r)[u.length + 1]? = r.head? := by
    rw [List.getElem?_append_right (by omega), Nat.add_sub_cancel_left]
    simp [List.head?_eq_getElem?]
  have hcrlf := head?_ne_of_not_crlf h
  simp only [BeginsLine, Nat.add_sub_cancel, hnext, List.getElem?_append_right (Nat.le_refl _),
    Nat.sub_self, List.getElem?_cons_zero, Option.some.injEq]
  grind

/-- The scan of a text that begins at an offset finds the beginnings of lines
behind that offset. -/
theorem lineStartsAfter_eq_filter (u t : Text) :
    lineStartsAfter u.length t =
      (List.range' (u.length + 1) t.length).filter fun i => BeginsLine (u ++ t) i := by
  generalize hstart : u.length = start
  fun_induction lineStartsAfter start t generalizing u with
  | case1 => rfl
  | case2 start rest ih =>
    subst hstart
    have hih := ih (u ++ ['\r', '\n']) (by simp)
    have hlf := beginsLine_after_lf (u ++ ['\r']) rest
    simp only [List.append_assoc, List.cons_append, List.nil_append, List.length_append,
      List.length_singleton, Nat.add_assoc] at hih hlf
    simp only [List.length_cons, List.range'_succ, Nat.add_assoc]
    rw [List.filter_cons_of_neg (by simpa using not_beginsLine_in_crlf u rest),
      List.filter_cons_of_pos (by simpa using hlf), hih]
  | case3 start c rest hcrlf hc ih =>
    subst hstart
    have hih := ih (u ++ [c]) (by simp)
    have hbegins := (beginsLine_after_iff u hcrlf).2 hc
    simp only [List.append_assoc, List.cons_append, List.nil_append] at hih
    rw [List.length_cons, List.range'_succ, List.filter_cons_of_pos (by simpa using hbegins), hih]
  | case4 start c rest hcrlf hc ih =>
    subst hstart
    have hih := ih (u ++ [c]) (by simp)
    have hnot := mt (beginsLine_after_iff u hcrlf).1 hc
    simp only [List.append_assoc, List.cons_append, List.nil_append] at hih
    rw [List.length_cons, List.range'_succ, List.filter_cons_of_neg (by simpa using hnot), hih]

/-- What the scan finds is ascending and lies behind the offset at which it begins. -/
theorem pairwise_cons_lineStartsAfter (u t : Text) :
    (u.length :: lineStartsAfter u.length t).Pairwise (· < ·) := by
  rw [lineStartsAfter_eq_filter, List.pairwise_cons]
  refine ⟨fun i hi => ?_, (List.pairwise_lt_range' ..).filter _⟩
  have hrange := List.mem_range'_1.1 (List.mem_of_mem_filter hi)
  omega

/-- The scan finds all beginnings of lines, in ascending order. -/
theorem lineStarts_eq_filter (t : Text) :
    lineStarts t = (List.range (t.length + 1)).filter fun i => BeginsLine t i := by
  have h := lineStartsAfter_eq_filter [] t
  rw [lineStarts, List.range_eq_range', List.range'_succ,
    List.filter_cons_of_pos (by simpa using beginsLine_zero t)]
  simpa using h

theorem pairwise_lineStarts (t : Text) : (lineStarts t).Pairwise (· < ·) :=
  pairwise_cons_lineStartsAfter [] t

theorem mem_lineStarts {t : Text} {i : Nat} :
    i ∈ lineStarts t ↔ i ≤ t.length ∧ BeginsLine t i := by
  rw [lineStarts_eq_filter]
  simp only [List.mem_filter, List.mem_range, Nat.lt_succ_iff, decide_eq_true_eq]

/-! ## The line of an offset -/

/-- The offset at which the line of an offset begins. -/
def lineStartAt (t : Text) (i : Nat) : Nat := Nat.findGreatest (BeginsLine t) i

/-- The number of the line of an offset, counted from one. -/
def lineNumberAt (t : Text) (i : Nat) : Nat := Nat.count (BeginsLine t) (i + 1)

theorem lineStartAt_le (t : Text) (i : Nat) : lineStartAt t i ≤ i := Nat.findGreatest_le i

theorem beginsLine_lineStartAt (t : Text) (i : Nat) : BeginsLine t (lineStartAt t i) :=
  Nat.findGreatest_spec (Nat.zero_le i) (beginsLine_zero t)

/-- As many lines begin up to an offset as up to the beginning of its line. -/
theorem lineNumberAt_eq (t : Text) (i : Nat) :
    lineNumberAt t i = Nat.count (BeginsLine t) (lineStartAt t i) + 1 := by
  induction i with
  | zero => simp [lineNumberAt, lineStartAt, Nat.count_succ, beginsLine_zero]
  | succ i ih =>
    by_cases h : BeginsLine t (i + 1)
    · simp [lineNumberAt, lineStartAt, Nat.count_succ, h]
    · rw [lineStartAt, Nat.findGreatest_of_not h]
      rw [lineNumberAt, Nat.count_succ, if_neg h]
      exact ih

theorem getElem?_filter_range {p : Nat → Prop} [DecidablePred p] {n i : Nat} (hi : i < n)
    (hp : p i) : ((List.range n).filter fun j => p j)[Nat.count p i]? = some i := by
  have hn : n = i + ((n - i - 1) + 1) := by omega
  have hlength : ((List.range i).filter fun j => p j).length = Nat.count p i := by
    rw [Nat.count, List.countP_eq_length_filter]
  rw [hn, List.range_add, List.filter_append, List.getElem?_append_right (by omega), hlength,
    Nat.sub_self, List.range_succ_eq_map, List.map_cons, List.filter_cons_of_pos (by simpa using hp)]
  rfl

/-- The line of an offset begins at the last beginning of a line up to it. -/
theorem getElem?_lineStarts {t : Text} {i : Nat} (h : i ≤ t.length) :
    (lineStarts t)[lineNumberAt t i - 1]? = some (lineStartAt t i) := by
  rw [lineNumberAt_eq, Nat.add_sub_cancel, lineStarts_eq_filter]
  have hle := lineStartAt_le t i
  exact getElem?_filter_range (by omega) (beginsLine_lineStartAt t i)

/-! ## The text of a line -/

/-- A text that ends no line. -/
def WithinLine (w : Text) : Prop := ∀ c ∈ w, c ≠ '\r' ∧ c ≠ '\n'

instance (w : Text) : Decidable (WithinLine w) := List.decidableBAll _ w

theorem withinLine_append : WithinLine (t ++ u) ↔ WithinLine t ∧ WithinLine u :=
  List.forall_mem_append

theorem withinLine_cons : WithinLine (c :: t) ↔ (c ≠ '\r' ∧ c ≠ '\n') ∧ WithinLine t :=
  List.forall_mem_cons

/-- What stands on a line lies before the beginning of every later line: the
terminator comes in between. -/
theorem lt_of_beginsLine {t w v : Text} {start i : Nat} (h : t.drop start = w ++ v)
    (hw : WithinLine w) (hi : BeginsLine t i) (hlt : start < i) : start + w.length < i := by
  by_contra hge
  have hlast : t[i - 1]? = w[i - 1 - start]? := by
    have hdrop : (t.drop start)[i - 1 - start]? = t[i - 1]? := by
      rw [List.getElem?_drop]
      congr 1
      omega
    rw [← hdrop, h, List.getElem?_append_left (by omega)]
  rcases hi with hi | hi | ⟨hi, -⟩
  · omega
  · rw [hlast] at hi
    exact (hw _ (List.mem_of_getElem? hi)).2 rfl
  · rw [hlast] at hi
    exact (hw _ (List.mem_of_getElem? hi)).1 rfl

/-- The text of a line lies before every later line. -/
theorem lt_of_lines_lt {t w v : Text} {m n start start' : Nat}
    (hm : (lineStarts t)[m]? = some start) (hn : (lineStarts t)[n]? = some start')
    (hlt : m < n) (h : t.drop start = w ++ v) (hw : WithinLine w) :
    start + w.length < start' := by
  have hstarts : start < start' := by
    obtain ⟨hm', rfl⟩ := List.getElem?_eq_some_iff.1 hm
    obtain ⟨hn', rfl⟩ := List.getElem?_eq_some_iff.1 hn
    exact List.pairwise_iff_getElem.1 (pairwise_lineStarts t) m n hm' hn' hlt
  have hbegins := (mem_lineStarts.1 (List.mem_of_getElem? hn)).2
  exact lt_of_beginsLine h hw hbegins hstarts

end TextDomain.Text
