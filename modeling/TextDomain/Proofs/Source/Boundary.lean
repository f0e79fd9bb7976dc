import Mathlib.Data.Prod.Lex
import TextDomain.Proofs.Source.Offset

/-!
# Positions that stand in a text

A position stands in a text where its line exists and its column is the width
of a beginning of that line, without the terminator. It then stands at one
offset, which the source index finds. Positions are ordered by line and then by
column, and the offsets are in the same order: on one line because a narrower
beginning of the line is a shorter one, on different lines because the text of
a line ends before the next line begins.

The lexer reads the text with all its lines ended by LF. Its positions stand in
the text as it is: a terminator of either width takes them to the beginning of
the next line.

## Main results

* `StandsAt.offset` — the index finds the offset of a position.
* `StandsAt.le_of_le`, `StandsAt.lt_of_lt` — positions and offsets are in the
  same order.
* `exists_standsAt_of_unified` — the positions of a unified text stand in the
  text itself.
-/

namespace TextDomain

namespace Text

/-- Of two beginnings of one text the wider is the longer one. -/
theorem byteWidth_le_iff {t w w' : Text} (h : w <+: t) (h' : w' <+: t) :
    byteWidth w ≤ byteWidth w' ↔ w.length ≤ w'.length := by
  rcases List.prefix_or_prefix_of_prefix h h' with ⟨x, rfl⟩ | ⟨x, rfl⟩
  · simp
  · have hwidth : byteWidth x = 0 ↔ x.length = 0 := by
      have hle := length_le_byteWidth x
      constructor
      · omega
      · intro hx
        rw [List.length_eq_zero_iff.1 hx]
        rfl
    rw [byteWidth_append, List.length_append]
    omega

end Text

namespace Position

/-! ## Order -/

/-- The order by line, then by column. -/
instance : LinearOrder Position :=
  LinearOrder.lift' (fun p => toLex (p.line, p.column)) fun p q h => by
    cases p
    cases q
    simpa using h

theorem le_iff {p q : Position} :
    p ≤ q ↔ p.line < q.line ∨ (p.line = q.line ∧ p.column ≤ q.column) := Prod.Lex.le_iff

theorem lt_iff {p q : Position} :
    p < q ↔ p.line < q.line ∨ (p.line = q.line ∧ p.column < q.column) := Prod.Lex.lt_iff

theorem lt_next (p : Position) (c : Char) : p < p.next c := by
  have hwidth := Text.charWidth_pos c
  unfold next
  split
  · exact lt_iff.2 (.inl (Nat.lt_succ_self _))
  · exact lt_iff.2 (.inr ⟨rfl, by dsimp only; omega⟩)

theorem le_after (p : Position) (t : Text) : p ≤ p.after t := by
  induction t generalizing p with
  | nil => exact le_refl p
  | cons c t ih => exact (lt_next p c).le.trans (ih (p.next c))

theorem lt_after {p : Position} {t : Text} (h : t ≠ []) : p < p.after t := by
  cases t with
  | nil => exact absurd rfl h
  | cons c t => exact (lt_next p c).trans_le (le_after (p.next c) t)

/-! ## Standing in a text -/

/-- `p.StandsAt text i`: the line of the position exists, its column is the
width of a beginning of what that line holds, and that beginning ends at offset
`i`. -/
structure StandsAt (text : Text) (p : Position) (i : Nat) : Prop where
  one_le_line : 1 ≤ p.line
  on_line : ∃ start w, text.lineStarts[p.line - 1]? = some start ∧ w <+: text.drop start ∧
    Text.WithinLine w ∧ p.column = Text.byteWidth w ∧ i = start + w.length

namespace StandsAt

variable {text : Text} {p q : Position} {i j : Nat}

/-- The index finds the offset at which a position stands. -/
theorem offset (h : p.StandsAt text i) (file : Text) :
    (SourceIndex.ofText text file).offset p.line p.column = .ok i := by
  obtain ⟨start, w, hstart, ⟨v, hdrop⟩, -, hcolumn, rfl⟩ := h.on_line
  rw [hcolumn]
  exact SourceIndex.offset_of_drop_eq h.one_le_line hstart hdrop.symm

theorem le_length (h : p.StandsAt text i) : i ≤ text.length := by
  obtain ⟨start, w, hstart, hprefix, -, -, rfl⟩ := h.on_line
  have hle := (Text.mem_lineStarts.1 (List.mem_of_getElem? hstart)).1
  have hlength := hprefix.length_le
  rw [List.length_drop] at hlength
  omega

/-- On one line, offsets are in the order of columns. -/
theorem column_le_iff (hp : p.StandsAt text i) (hq : q.StandsAt text j) (hline : p.line = q.line) :
    p.column ≤ q.column ↔ i ≤ j := by
  obtain ⟨start, w, hstart, hw, -, hcolumn, rfl⟩ := hp.on_line
  obtain ⟨start', w', hstart', hw', -, hcolumn', rfl⟩ := hq.on_line
  rw [hline, hstart'] at hstart
  obtain rfl := Option.some.inj hstart
  rw [hcolumn, hcolumn', Text.byteWidth_le_iff hw hw']
  omega

/-- The text of a line ends before every later line. -/
theorem lt_of_line_lt (hp : p.StandsAt text i) (hq : q.StandsAt text j) (hline : p.line < q.line) :
    i < j := by
  have hone := hp.one_le_line
  obtain ⟨start, w, hstart, ⟨v, hdrop⟩, hw, -, rfl⟩ := hp.on_line
  obtain ⟨start', w', hstart', -, -, -, rfl⟩ := hq.on_line
  have hlt := Text.lt_of_lines_lt hstart hstart' (by omega) hdrop.symm hw
  omega

/-- Positions and their offsets are in the same order. -/
theorem le_of_le (hp : p.StandsAt text i) (hq : q.StandsAt text j) (h : p ≤ q) : i ≤ j := by
  rcases le_iff.1 h with hline | ⟨hline, hcolumn⟩
  · exact Nat.le_of_lt (hp.lt_of_line_lt hq hline)
  · exact (hp.column_le_iff hq hline).1 hcolumn

theorem lt_of_lt (hp : p.StandsAt text i) (hq : q.StandsAt text j) (h : p < q) : i < j := by
  rcases lt_iff.1 h with hline | ⟨hline, hcolumn⟩
  · exact hp.lt_of_line_lt hq hline
  · have hle := hq.column_le_iff hp hline.symm
    omega

/-! ## Passing over characters -/

theorem next (h : p.StandsAt text i) {c : Char} (hget : text[i]? = some c)
    (hc : c ≠ '\r' ∧ c ≠ '\n') : (p.next c).StandsAt text (i + 1) := by
  obtain ⟨start, w, hstart, ⟨v, hdrop⟩, hw, hcolumn, rfl⟩ := h.on_line
  have hnext : p.next c = ⟨p.line, p.column + Text.charWidth c⟩ := if_neg hc.2
  have hhead : v = c :: v.tail := by
    have hv : v[0]? = some c := by
      rw [← hget, ← List.getElem?_drop, ← hdrop, List.getElem?_append_right (Nat.le_refl _),
        Nat.sub_self]
    cases v with
    | nil => cases hv
    | cons x v => simpa using hv
  rw [hnext]
  refine ⟨h.one_le_line, start, w ++ [c], hstart, ⟨v.tail, ?_⟩, ?_, ?_, ?_⟩
  · rw [List.append_assoc, List.singleton_append, ← hhead, hdrop]
  · intro x hx
    rcases List.mem_append.1 hx with hx | hx
    · exact hw x hx
    · rw [List.mem_singleton.1 hx]
      exact hc
  · simp [hcolumn, Text.byteWidth]
  · simp [Nat.add_assoc]

/-- After the end of its line, a position stands at the beginning of the next
line. -/
theorem next_line (h : p.StandsAt text i) (hj : Text.BeginsLine text j) (hij : i < j)
    (hle : j ≤ text.length) (hbetween : ∀ k, i < k → k < j → ¬ Text.BeginsLine text k) :
    (p.next '\n').StandsAt text j := by
  have hone := h.one_le_line
  have hsorted := List.pairwise_iff_getElem.1 (Text.pairwise_lineStarts text)
  obtain ⟨start, w, hstart, ⟨v, hdrop⟩, hw, -, rfl⟩ := h.on_line
  obtain ⟨hlt, hstart⟩ := List.getElem?_eq_some_iff.1 hstart
  obtain ⟨m, hm, hmj⟩ := List.getElem_of_mem (Text.mem_lineStarts.2 ⟨hle, hj⟩)
  -- The next beginning of a line is behind the position, so it is not before `j`.
  have hline : m = p.line := by
    rcases Nat.lt_trichotomy m p.line with hlow | heq | hhigh
    · exfalso
      rcases Nat.lt_or_eq_of_le (show m ≤ p.line - 1 by omega) with hlow | rfl
      · have := hsorted m (p.line - 1) hm hlt hlow
        omega
      · omega
    · exact heq
    · exfalso
      have hnext : p.line < text.lineStarts.length := by omega
      have hafter := hsorted (p.line - 1) p.line hlt hnext (by omega)
      have hbefore := hsorted p.line m hnext hm hhigh
      have hbegins := (Text.mem_lineStarts.1 (List.getElem_mem hnext)).2
      rw [hstart] at hafter
      rw [hmj] at hbefore
      exact hbetween _ (Text.lt_of_beginsLine hdrop.symm hw hbegins hafter) hbefore hbegins
  subst hline
  refine ⟨Nat.succ_pos _, j, [], ?_, List.nil_prefix, ?_, rfl, rfl⟩
  · exact List.getElem?_eq_some_iff.2 ⟨hm, hmj⟩
  · intro c hc
    cases hc

end StandsAt

/-! ## Unified texts -/

theorem origin_standsAt (text : Text) : origin.StandsAt text 0 :=
  ⟨Nat.le_refl 1, 0, [], rfl, List.nil_prefix, by simp [Text.WithinLine], rfl, rfl⟩

/-- What a unified text comes to, the text itself comes to. -/
theorem exists_standsAt_of_after {text u t : Text} {p : Position} (htext : text = u ++ t)
    (hp : p.StandsAt text u.length) {pre : Text} (hpre : pre <+: t.unifyTerminators) :
    ∃ i, (p.after pre).StandsAt text i := by
  -- The induction follows the scan; a terminator of either width ends one line.
  fun_induction Text.unifyTerminators t generalizing u p pre with
  | case1 =>
    obtain rfl := List.prefix_nil.1 hpre
    exact ⟨u.length, hp⟩
  | case2 rest ih =>
    subst htext
    cases pre with
    | nil => exact ⟨u.length, hp⟩
    | cons x pre =>
      obtain ⟨rfl, htail⟩ := List.cons_prefix_cons.1 hpre
      have hnext : (p.next '\n').StandsAt (u ++ '\r' :: '\n' :: rest) (u.length + 2) := by
        refine hp.next_line ?_ (by omega) ?_ ?_
        · simpa using Text.beginsLine_after_lf (u ++ ['\r']) rest
        · simp only [List.length_append, List.length_cons]
          omega
        · intro k hk hk'
          obtain rfl : k = u.length + 1 := by omega
          exact Text.not_beginsLine_in_crlf u rest
      show ∃ i, ((p.next '\n').after pre).StandsAt _ i
      exact ih (u := u ++ ['\r', '\n']) (by simp) (by simpa using hnext) htail
  | case3 c rest hcrlf ih =>
    subst htext
    cases pre with
    | nil => exact ⟨u.length, hp⟩
    | cons x pre =>
      obtain ⟨rfl, htail⟩ := List.cons_prefix_cons.1 hpre
      have hnext : (p.next (if c = '\r' then '\n' else c)).StandsAt (u ++ c :: rest)
          (u.length + 1) := by
        by_cases hc : c = '\r' ∨ c = '\n'
        · have hbreak : (if c = '\r' then '\n' else c) = '\n' := by
            rcases hc with rfl | rfl <;> rfl
          rw [hbreak]
          refine hp.next_line ((Text.beginsLine_after_iff u hcrlf).2 hc) (by omega) ?_ ?_
          · simp only [List.length_append, List.length_cons]
            omega
          · intro k hk hk'
            omega
        · obtain ⟨hreturn, hbreak⟩ := not_or.1 hc
          rw [if_neg hreturn]
          exact hp.next (by simp) ⟨hreturn, hbreak⟩
      show ∃ i, ((p.next (if c = '\r' then '\n' else c)).after pre).StandsAt _ i
      exact ih (u := u ++ [c]) (by simp) (by simpa using hnext) htail

/-- The positions of a unified text stand in the text itself. -/
theorem exists_standsAt_of_unified {text pre : Text} (h : pre <+: text.unifyTerminators) :
    ∃ i, (origin.after pre).StandsAt text i :=
  exists_standsAt_of_after (List.nil_append text).symm (origin_standsAt text) h

end Position

end TextDomain
