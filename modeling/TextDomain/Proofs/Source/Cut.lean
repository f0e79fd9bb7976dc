import TextDomain.Proofs.Source.Line
import TextDomain.Source.Index

/-!
# The one way to cut a text into lines

The beginnings of lines cut a text into pieces, and these are its lines: a run of other
characters with one terminator behind it each, and a last run with none. `CutsIntoLines`
says this of any list of offsets, without a word on how the offsets are found, and the
list of a source index is the only one of which it holds.

What the scan has to get right is CR LF. A CR and an LF end a line each, but side by side
they end only one, so whether a CR is a terminator depends on what is behind it
(`Terminator`). A text then begins with a line in one way only, and the scan goes over
this line in one step (`lineStartsAfter_line`). That it finds lines is an induction over
the lines of the text, that no other offsets have lines between them is one over the list
of offsets.

## Main results

* `lineStartsAfter_line` — the scan goes over a line in one step.
* `consecutiveLines_pieces` — the pieces between the beginnings of lines are lines.
* `ConsecutiveLines.eq_lineStartsAfter` — offsets with lines between them are found by
  the scan.
* `SourceIndex.lineStarts_eq_iff_cuts` — exactly one list of offsets cuts a text into
  lines.
-/

namespace TextDomain

namespace Text

variable {c : Char} {t w e behind : Text} {start stop : Nat} {rest : List Nat}

/-! ## Texts cut at offsets -/

/-- The pieces of a text from each offset of a list to the next one, and from the last
one to the end. -/
def pieces (t : Text) : List Nat → List Text
  | [] => []
  | [start] => [t.drop start]
  | start :: stop :: rest => (t.drop start).take (stop - start) :: pieces t (stop :: rest)

theorem piece_append_drop (h : start ≤ stop) (t : Text) :
    (t.drop start).take (stop - start) ++ t.drop stop = t.drop start := by
  have hstop : t.drop stop = (t.drop start).drop (stop - start) := by
    rw [List.drop_drop, Nat.add_sub_cancel' h]
  rw [hstop, List.take_append_drop]

/-- Nothing is lost between pieces. -/
theorem flatten_pieces (h : (start :: rest).Pairwise (· < ·)) (t : Text) :
    (pieces t (start :: rest)).flatten = t.drop start := by
  induction rest generalizing start with
  | nil => rw [pieces, List.flatten_singleton]
  | cons stop rest ih =>
    obtain ⟨hstart, hrest⟩ := List.pairwise_cons.1 h
    have hlt : start < stop := hstart stop List.mem_cons_self
    rw [pieces, List.flatten_cons, ih hrest, piece_append_drop (Nat.le_of_lt hlt)]

/-- Two offsets that are given by what stands in front of them cut out what stands
between them. -/
theorem pieces_between (u v t : Text) (rest : List Nat) :
    pieces (u ++ (v ++ t)) (u.length :: (u ++ v).length :: rest) =
      v :: pieces (u ++ (v ++ t)) ((u ++ v).length :: rest) := by
  rw [pieces, List.drop_left, List.length_append, Nat.add_sub_cancel_left, List.take_left]

/-! ## Lines -/

/-- A terminator in front of the text behind it. A CR is one only if no LF is behind
it. -/
inductive Terminator : Text → Text → Prop where
  | crlf (behind : Text) : Terminator ['\r', '\n'] behind
  | cr {behind : Text} (h : behind.head? ≠ some '\n') : Terminator ['\r'] behind
  | lf (behind : Text) : Terminator ['\n'] behind

/-- Texts that are lines one after another: the last one has no terminator in it, and
every other one has a single terminator, at its end. -/
inductive ConsecutiveLines : List Text → Prop where
  | last {w : Text} (hw : WithinLine w) : ConsecutiveLines [w]
  | ended {w e : Text} {lines : List Text} (hw : WithinLine w)
      (he : Terminator e lines.flatten) (hlines : ConsecutiveLines lines) :
      ConsecutiveLines ((w ++ e) :: lines)

/-- The offsets are the beginnings of the lines into which they cut the text. -/
structure CutsIntoLines (t : Text) (starts : List Nat) : Prop where
  /-- Every line begins behind the one before it. -/
  ascending : starts.Pairwise (· < ·)
  /-- The first line begins with the text. -/
  first : starts.head? = some 0
  /-- No line begins behind the end of the text. -/
  inside : ∀ start ∈ starts, start ≤ t.length
  /-- The pieces together are the text. -/
  joined : (pieces t starts).flatten = t
  /-- The pieces are lines. -/
  lines : ConsecutiveLines (pieces t starts)

/-! ## The scan over one line -/

/-- A line begins right behind a character exactly if it is a terminator, unless it is
a CR in front of an LF. -/
theorem lineStartsAfter_cons (h : c = '\r' → t.head? ≠ some '\n') (start : Nat) :
    lineStartsAfter start (c :: t) =
      if c = '\r' ∨ c = '\n' then (start + 1) :: lineStartsAfter (start + 1) t
      else lineStartsAfter (start + 1) t := by
  rw [lineStartsAfter]
  rintro rest hc rfl
  exact h hc rfl

/-- No line begins within a run of other characters. -/
theorem lineStartsAfter_append (hw : WithinLine w) (start : Nat) (t : Text) :
    lineStartsAfter start (w ++ t) = lineStartsAfter (start + w.length) t := by
  induction w generalizing start with
  | nil => rfl
  | cons c w ih =>
    obtain ⟨hc, hw⟩ := withinLine_cons.1 hw
    rw [List.cons_append, lineStartsAfter_cons (fun hcr => absurd hcr hc.1),
      if_neg (not_or.2 hc), ih hw, List.length_cons, Nat.add_assoc, Nat.add_comm 1]

theorem lineStartsAfter_of_withinLine (hw : WithinLine w) (start : Nat) :
    lineStartsAfter start w = [] := by
  have h := lineStartsAfter_append hw start []
  rwa [List.append_nil, lineStartsAfter] at h

theorem Terminator.lineStartsAfter_append (he : Terminator e behind) (start : Nat) :
    lineStartsAfter start (e ++ behind) =
      (start + e.length) :: lineStartsAfter (start + e.length) behind := by
  cases he with
  | crlf => rfl
  | cr h => exact (lineStartsAfter_cons (fun _ => h) start).trans (if_pos (.inl rfl))
  | lf =>
    have hcr : '\n' = '\r' → behind.head? ≠ some '\n' := fun h => absurd h (by decide)
    exact (lineStartsAfter_cons hcr start).trans (if_pos (.inr rfl))

/-- The scan goes over a line in one step. -/
theorem lineStartsAfter_line (hw : WithinLine w) (he : Terminator e behind) (start : Nat) :
    lineStartsAfter start (w ++ e ++ behind) =
      (start + (w ++ e).length) :: lineStartsAfter (start + (w ++ e).length) behind := by
  rw [List.append_assoc, lineStartsAfter_append hw, he.lineStartsAfter_append,
    List.length_append, Nat.add_assoc]

/-! ## Texts line by line -/

/-- A text has no terminator in it, or it begins with a line that has one at its end. -/
theorem exists_line (t : Text) :
    WithinLine t ∨ ∃ w e behind, t = w ++ e ++ behind ∧ WithinLine w ∧ Terminator e behind := by
  induction t using unifyTerminators.induct with
  | case1 => exact .inl nofun
  | case2 rest => exact .inr ⟨[], ['\r', '\n'], rest, rfl, nofun, .crlf rest⟩
  | case3 c rest hcrlf ih =>
    by_cases hcr : c = '\r'
    · subst hcr
      have hhead := head?_ne_of_not_crlf hcrlf rfl
      exact .inr ⟨[], ['\r'], rest, rfl, nofun, .cr hhead⟩
    by_cases hlf : c = '\n'
    · subst hlf
      exact .inr ⟨[], ['\n'], rest, rfl, nofun, .lf rest⟩
    rcases ih with hrest | ⟨w, e, behind, rfl, hw, he⟩
    · exact .inl (withinLine_cons.2 ⟨⟨hcr, hlf⟩, hrest⟩)
    · exact .inr ⟨c :: w, e, behind, rfl, withinLine_cons.2 ⟨⟨hcr, hlf⟩, hw⟩, he⟩

theorem Terminator.ne_nil (he : Terminator e behind) : e ≠ [] := by
  cases he <;> exact List.cons_ne_nil _ _

/-- Induction on a text line by line. -/
@[elab_as_elim]
theorem line_induction {motive : Text → Prop} (last : ∀ w, WithinLine w → motive w)
    (ended : ∀ w e behind, WithinLine w → Terminator e behind → motive behind →
      motive (w ++ e ++ behind)) (t : Text) : motive t := by
  induction hlength : t.length using Nat.strong_induction_on generalizing t with
  | _ n ih =>
    subst hlength
    rcases exists_line t with hw | ⟨w, e, behind, rfl, hw, he⟩
    · exact last t hw
    · -- A terminator is not empty, so less is left behind the line.
      have hshorter : behind.length < (w ++ e ++ behind).length := by
        have hpos := List.length_pos_iff.2 he.ne_nil
        simp only [List.length_append]
        omega
      exact ended w e behind hw he (ih _ hshorter behind rfl)

/-- The pieces between the beginnings of lines are lines. -/
theorem consecutiveLines_pieces (u t : Text) :
    ConsecutiveLines (pieces (u ++ t) (u.length :: lineStartsAfter u.length t)) := by
  induction t using line_induction generalizing u with
  | last w hw =>
    rw [lineStartsAfter_of_withinLine hw, pieces, List.drop_left]
    exact .last hw
  | ended w e behind hw he ih =>
    have hbehind := ih (u ++ (w ++ e))
    -- The pieces behind the line are what its terminator has behind it.
    have hflatten := flatten_pieces (pairwise_cons_lineStartsAfter (u ++ (w ++ e)) behind)
      (u ++ (w ++ e) ++ behind)
    rw [List.drop_left] at hflatten
    rw [lineStartsAfter_line hw he, ← List.length_append, pieces_between, ← List.append_assoc]
    exact .ended hw (hflatten.symm ▸ he) hbehind

/-! ## Uniqueness -/

theorem ConsecutiveLines.withinLine (h : ConsecutiveLines [w]) : WithinLine w := by
  cases h with
  | last hw => exact hw
  | ended _ _ hlines => cases hlines

theorem pieces_cons_ne_nil (t : Text) (start : Nat) (rest : List Nat) :
    pieces t (start :: rest) ≠ [] := by
  cases rest <;> exact List.cons_ne_nil _ _

/-- A piece that others follow is a line with a terminator at its end. -/
theorem ConsecutiveLines.exists_terminator
    (h : ConsecutiveLines (pieces t (start :: stop :: rest)))
    (hascending : (stop :: rest).Pairwise (· < ·)) :
    ∃ w e, (t.drop start).take (stop - start) = w ++ e ∧ WithinLine w ∧
      Terminator e (t.drop stop) ∧ ConsecutiveLines (pieces t (stop :: rest)) := by
  rw [pieces] at h
  have hflatten := flatten_pieces hascending t
  have hne := pieces_cons_ne_nil t stop rest
  generalize (t.drop start).take (stop - start) = line at h ⊢
  generalize pieces t (stop :: rest) = lines at h hflatten hne ⊢
  cases h with
  | last => exact absurd rfl hne
  | ended hw he hlines => exact ⟨_, _, rfl, hw, hflatten ▸ he, hlines⟩

/-- Offsets with lines between them are those that the scan finds. -/
theorem ConsecutiveLines.eq_lineStartsAfter (h : ConsecutiveLines (pieces t (start :: rest)))
    (hascending : (start :: rest).Pairwise (· < ·)) (hinside : ∀ i ∈ start :: rest, i ≤ t.length) :
    rest = lineStartsAfter start (t.drop start) := by
  induction rest generalizing start with
  | nil =>
    rw [pieces] at h
    exact (lineStartsAfter_of_withinLine h.withinLine start).symm
  | cons stop rest ih =>
    obtain ⟨hstart, hrest⟩ := List.pairwise_cons.1 hascending
    have hlt : start < stop := hstart stop List.mem_cons_self
    have hle : stop ≤ t.length := hinside stop (by simp)
    have hdrop := piece_append_drop (Nat.le_of_lt hlt) t
    have hlength : ((t.drop start).take (stop - start)).length = stop - start := by
      rw [List.length_take, List.length_drop]
      omega
    -- The scan goes over the first line, and that is where the next offset has to be.
    obtain ⟨w, e, hline, hw, he, hlines⟩ := h.exists_terminator hrest
    rw [hline] at hdrop hlength
    have hstop : start + (w ++ e).length = stop := by omega
    rw [← hdrop, lineStartsAfter_line hw he, hstop,
      ← ih hlines hrest fun i hi => hinside i (List.mem_cons_of_mem _ hi)]

end Text

namespace SourceIndex

/-- Exactly one list of offsets cuts a text into lines, and it is the one of the index. -/
theorem lineStarts_eq_iff_cuts (text file : Text) (starts : List Nat) :
    (ofText text file).lineStarts = starts ↔ Text.CutsIntoLines text starts := by
  constructor
  · rintro rfl
    have hjoined := Text.flatten_pieces (Text.pairwise_lineStarts text) text
    have hlines := Text.consecutiveLines_pieces [] text
    exact ⟨Text.pairwise_lineStarts text, rfl, fun _ hi => (Text.mem_lineStarts.1 hi).1,
      hjoined, hlines⟩
  · intro h
    obtain ⟨rest, rfl⟩ := List.head?_eq_some_iff.1 h.first
    have hrest := h.lines.eq_lineStartsAfter h.ascending h.inside
    exact congrArg (List.cons 0) hrest.symm

/-- A CR, a CR LF and an LF one after another, with the last line empty. -/
example : (ofText "\r\r\n\n".toList []).lineStarts = [0, 1, 3, 4] := by decide

end SourceIndex

end TextDomain
