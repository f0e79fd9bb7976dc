import Mathlib.Algebra.Ring.Int.Defs
import TextDomain.Fix

/-!
# A pass and its fixes one by one

A pass goes through the text once, from left to right, and never looks back. An
editor would rather carry out the same fixes one at a time, and would begin with
the last one, so that the offsets of the others stay what they are. Both come to
the same text.

What the two have in common is said by `Edited`: the old and the new text are
made of the same stretches, and between two of them the one has what a fix
covers and the other has the text of that fix. It is stated by the lengths of the
parts and mentions neither the cursor of the pass nor the offsets of a text that
has been changed already, so that everything that is known of a pass is read off
it by induction.

## Main results

* `Fix.edited_of_applyAll` — old and new text of a pass are edited.
* `Fix.Edited.foldr_applyTo` — one fix at a time gives the same text.
* `Fix.Edited.exists_kept` — what no fix covers is kept, once and in order.
* `Fix.applyAll_eq_foldr` — all of this for a pass.
-/

namespace TextDomain

/-- Whether an offset lies in a span. -/
def Span.covers (s : Span) (i : Nat) : Bool := decide (s.start ≤ i ∧ i < s.stop)

namespace Fix

/-- The text with one fix carried out. -/
def applyTo (f : Fix) (t : Text) : Text := t.take f.span.start ++ f.text ++ t.drop f.span.stop

/-- How much longer a text gets by a fix; less than zero if it gets shorter. -/
def growth (f : Fix) : Int := f.text.length - f.span.length

/-- The characters of a text that no fix covers, in their order. The text begins
at offset `cursor`. -/
def uncovered (cursor : Nat) (fixes : List Fix) (t : Text) : Text :=
  ((t.zipIdx cursor).filter fun x => fixes.all fun f => !f.span.covers x.2).map Prod.fst

/-- Stretches of text with other texts between them. -/
def interlace : List Text → List Text → Text
  | kept :: stretches, new :: news => kept ++ new ++ interlace stretches news
  | stretches, _ => stretches.flatten

/-! ## Edited texts -/

/-- `Edited cursor fixes t t'`: fixes in ascending order make `t'` of the text `t`
that begins at offset `cursor`. -/
inductive Edited : Nat → List Fix → Text → Text → Prop where
  /-- Behind the last fix everything is kept. -/
  | behind (cursor : Nat) (kept : Text) : Edited cursor [] kept kept
  /-- Before the first fix everything is kept, and its text is put in the place of
  what it covers. -/
  | next {cursor : Nat} {f : Fix} {fixes : List Fix} {kept covered t t' : Text}
      (before : cursor + kept.length = f.span.start) (within : covered.length = f.span.length)
      (rest : Edited f.span.stop fixes t t') :
      Edited cursor (f :: fixes) (kept ++ covered ++ t) (kept ++ f.text ++ t')

/-- The part of a text up to a span, the part in it, and the part behind it. -/
theorem drop_eq_parts {cursor : Nat} {s : Span} (text : Text) (h : cursor ≤ s.start) :
    text.drop cursor =
      (text.drop cursor).take (s.start - cursor) ++ s.slice text ++ text.drop s.stop := by
  have hstart : (text.drop cursor).drop (s.start - cursor) = text.drop s.start := by
    rw [List.drop_drop, Nat.add_sub_cancel' h]
  have hstop : (text.drop s.start).drop s.length = text.drop s.stop := by
    rw [List.drop_drop, Span.length, Nat.add_sub_cancel' s.start_le_stop]
  rw [List.append_assoc, Span.slice, ← hstop, List.take_append_drop, ← hstart,
    List.take_append_drop]

/-- Going through a text from left to right edits it, if the fixes are apart and
lie in what is left of it. -/
theorem edited_splice {text : Text} {cursor : Nat} {fixes : List Fix}
    (hseparated : fixes.Pairwise Separated) (hahead : ∀ f ∈ fixes, cursor ≤ f.span.start)
    (hinside : ∀ f ∈ fixes, f.span.stop ≤ text.length) :
    Edited cursor fixes (text.drop cursor) (splice cursor text fixes) := by
  induction fixes generalizing cursor with
  | nil => exact .behind cursor _
  | cons f rest ih =>
    obtain ⟨hf, hrest⟩ := List.pairwise_cons.1 hseparated
    have hstart := hahead f (List.mem_cons_self ..)
    have hstop := hinside f (List.mem_cons_self ..)
    have hproper := f.span.start_le_stop
    have hbefore : cursor + ((text.drop cursor).take (f.span.start - cursor)).length =
        f.span.start := by
      rw [List.length_take, List.length_drop]
      omega
    have hwithin : (f.span.slice text).length = f.span.length := Span.length_slice hstop
    have hbehind : Edited f.span.stop rest (text.drop f.span.stop)
        (splice f.span.stop text rest) :=
      ih hrest (fun g hg => Nat.le_of_lt (hf g hg))
        fun g hg => hinside g (List.mem_cons_of_mem f hg)
    have hedited := Edited.next hbefore hwithin hbehind
    rw [← drop_eq_parts text hstart] at hedited
    exact hedited

/-- The fixes that a pass takes edit the text. -/
theorem edited_of_applyAll {text fixed : Text} {fixes : List Fix} {n : Nat}
    (h : applyAll text fixes = .ok (fixed, n)) :
    Edited 0 (select fixes) text fixed ∧ (select fixes).length = n := by
  simp only [applyAll] at h
  split at h
  next => cases h
  next hnone =>
    cases h
    refine ⟨edited_splice (separated_select fixes) (fun _ _ => Nat.zero_le _) ?_, rfl⟩
    intro f hf
    have hle := List.find?_eq_none.1 hnone f hf
    simp only [decide_eq_true_eq] at hle
    omega

namespace Edited

variable {cursor : Nat} {fixes : List Fix} {t t' : Text}

/-- No fix begins before the text does. -/
theorem cursor_le_start (h : Edited cursor fixes t t') : ∀ f ∈ fixes, cursor ≤ f.span.start := by
  induction h with
  | behind => exact fun f hf => nomatch hf
  | @next cursor f fixes _ _ _ _ before _ _ ih =>
    intro g hg
    have hproper := f.span.start_le_stop
    rcases List.mem_cons.1 hg with rfl | hg
    · omega
    · have := ih g hg
      omega

/-- Fixes carried out one at a time, from the last to the first, come to the same
text. What stands in front of the text is left alone. -/
theorem foldr_applyTo (h : Edited cursor fixes t t') {front : Text}
    (hfront : front.length = cursor) : fixes.foldr applyTo (front ++ t) = front ++ t' := by
  induction h generalizing front with
  | behind => rfl
  | @next cursor f fixes kept covered t t' before within rest ih =>
    have hproper := f.span.start_le_stop
    have hstart : (front ++ kept).length = f.span.start := by
      rw [List.length_append]
      omega
    have hstop : (front ++ kept ++ covered).length = f.span.stop := by
      rw [List.length_append, hstart, within, Span.length]
      omega
    -- For the fixes behind this one, all up to its end stands in front.
    have hbehind : fixes.foldr applyTo (front ++ (kept ++ covered ++ t)) =
        front ++ kept ++ covered ++ t' := by
      rw [← ih hstop]
      simp only [List.append_assoc]
    rw [List.foldr_cons, hbehind, applyTo, List.drop_left' hstop, List.append_assoc _ covered,
      List.take_left' hstart]
    simp only [List.append_assoc]

/-- The new text is longer by what the fixes add. -/
theorem length_eq (h : Edited cursor fixes t t') :
    (t'.length : Int) = t.length + (fixes.map growth).sum := by
  induction h with
  | behind => simp
  | next before within rest ih =>
    simp only [List.length_append, List.map_cons, List.sum_cons, growth, within, Int.natCast_add]
    omega

/-- If the fixes only delete, the new text is part of the old one. -/
theorem sublist (h : Edited cursor fixes t t') (hdelete : ∀ f ∈ fixes, f.text = []) :
    t'.Sublist t := by
  induction h with
  | behind => exact .refl _
  | @next _ f _ kept covered _ _ _ _ _ ih =>
    rw [hdelete f (List.mem_cons_self ..), List.append_nil]
    exact (List.sublist_append_left kept covered).append
      (ih fun g hg => hdelete g (List.mem_cons_of_mem f hg))

end Edited

/-! ## What is kept -/

theorem uncovered_append (cursor : Nat) (fixes : List Fix) (t u : Text) :
    uncovered cursor fixes (t ++ u) =
      uncovered cursor fixes t ++ uncovered (cursor + t.length) fixes u := by
  simp only [uncovered, List.zipIdx_append, List.filter_append, List.map_append]

/-- Before the first fix nothing is covered. -/
theorem uncovered_of_before {cursor : Nat} {fixes : List Fix} {t : Text}
    (h : ∀ f ∈ fixes, cursor + t.length ≤ f.span.start) : uncovered cursor fixes t = t := by
  have hall : (t.zipIdx cursor).filter (fun x => fixes.all fun f => !f.span.covers x.2) =
      t.zipIdx cursor := by
    rw [List.filter_eq_self]
    intro x hx
    have hplace := (List.mem_zipIdx hx).2.1
    rw [List.all_eq_true]
    intro f hf
    have := h f hf
    simp only [Span.covers, Bool.not_eq_true', decide_eq_false_iff_not]
    omega
  rw [uncovered, hall, List.zipIdx_map_fst]

/-- A span covers what lies in it. -/
theorem uncovered_of_within {cursor : Nat} {f : Fix} {fixes : List Fix} {t : Text}
    (hstart : f.span.start ≤ cursor) (hstop : cursor + t.length ≤ f.span.stop) :
    uncovered cursor (f :: fixes) t = [] := by
  have hnone : (t.zipIdx cursor).filter (fun x => (f :: fixes).all fun g => !g.span.covers x.2) =
      [] := by
    rw [List.filter_eq_nil_iff]
    intro x hx
    have hplace := List.mem_zipIdx hx
    have hcovered : f.span.covers x.2 = true := decide_eq_true ⟨by omega, by omega⟩
    simp [hcovered]
  rw [uncovered, hnone, List.map_nil]

/-- Behind a fix it has no effect any more. -/
theorem uncovered_of_behind {cursor : Nat} {f : Fix} (fixes : List Fix) (t : Text)
    (h : f.span.stop ≤ cursor) : uncovered cursor (f :: fixes) t = uncovered cursor fixes t := by
  have hsame : (t.zipIdx cursor).filter (fun x => (f :: fixes).all fun g => !g.span.covers x.2) =
      (t.zipIdx cursor).filter fun x => fixes.all fun g => !g.span.covers x.2 := by
    apply List.filter_congr
    intro x hx
    have hplace := List.mem_zipIdx hx
    have hfree : f.span.covers x.2 = false := decide_eq_false (by omega)
    simp [hfree]
  rw [uncovered, hsame, uncovered]

/-- The new text has the characters that no fix covers, in their order, each of
them once; the texts of the fixes stand between them, and nothing else does. -/
theorem Edited.exists_kept {cursor : Nat} {fixes : List Fix} {t t' : Text}
    (h : Edited cursor fixes t t') :
    ∃ kept : List Text, kept.length = fixes.length + 1 ∧
      kept.flatten = uncovered cursor fixes t ∧ t' = interlace kept (fixes.map Fix.text) := by
  induction h with
  | behind cursor kept =>
    have hall : uncovered cursor [] kept = kept := uncovered_of_before fun _ hf => nomatch hf
    refine ⟨[kept], rfl, ?_, ?_⟩
    · rw [hall, List.flatten_singleton]
    · rw [interlace, List.flatten_singleton]
      exact fun _ _ _ _ _ hnil => nomatch hnil
  | @next cursor f fixes kept covered t t' before within rest ih =>
    obtain ⟨stretches, hlength, hflatten, heq⟩ := ih
    have hproper := f.span.start_le_stop
    have hstop : f.span.start + covered.length = f.span.stop := by
      rw [within, Span.length]
      omega
    have hbefore : uncovered cursor (f :: fixes) kept = kept := by
      apply uncovered_of_before
      intro g hg
      rcases List.mem_cons.1 hg with rfl | hg
      · exact Nat.le_of_eq before
      · have := rest.cursor_le_start g hg
        omega
    have hwithin : uncovered f.span.start (f :: fixes) covered = [] :=
      uncovered_of_within (Nat.le_refl _) (Nat.le_of_eq hstop)
    have hbehind : uncovered f.span.stop (f :: fixes) t = uncovered f.span.stop fixes t :=
      uncovered_of_behind fixes t (Nat.le_refl _)
    refine ⟨kept :: stretches, by simp only [List.length_cons, hlength], ?_, ?_⟩
    · rw [List.append_assoc, uncovered_append, uncovered_append, before, hstop, hbefore, hwithin,
        hbehind, List.nil_append, List.flatten_cons, hflatten]
    · rw [heq, List.map_cons, interlace]

/-! ## A pass -/

/-- A single fix that lies in the text is carried out. -/
theorem applyAll_singleton {text : Text} {f : Fix} (h : f.span.stop ≤ text.length) :
    applyAll text [f] = .ok (f.applyTo text, 1) := by
  have hselect : select [f] = [f] := rfl
  have hinside : ¬ text.length < f.span.stop := Nat.not_lt.2 h
  simp only [applyAll, hselect, List.find?_cons, List.find?_nil, hinside, decide_false, splice,
    List.drop_zero, Nat.sub_zero, applyTo, List.length_singleton]

/-- A pass comes to what its fixes come to when they are carried out one at a time,
from the last to the first. What they do not cover is kept, once and in order, and
the text gets longer by what they add. -/
theorem applyAll_eq_foldr {text fixed : Text} {fixes : List Fix} {n : Nat}
    (h : applyAll text fixes = .ok (fixed, n)) :
    (select fixes).length = n ∧ (select fixes).Sublist (inSpanOrder fixes) ∧
      (select fixes).Pairwise Separated ∧
      fixed = (select fixes).foldr applyTo text ∧
      (∃ kept : List Text, kept.length = n + 1 ∧
        kept.flatten = uncovered 0 (select fixes) text ∧
        fixed = interlace kept ((select fixes).map Fix.text)) ∧
      (fixed.length : Int) = text.length + ((select fixes).map growth).sum := by
  obtain ⟨hedited, rfl⟩ := edited_of_applyAll h
  have hfold : (select fixes).foldr applyTo ([] ++ text) = [] ++ fixed := hedited.foldr_applyTo rfl
  exact ⟨rfl, select_sublist fixes, separated_select fixes, hfold.symm, hedited.exists_kept,
    hedited.length_eq⟩

/-- Four fixes of one text, out of order: one of them begins where another one
ends and is put off. -/
def digitFixes : List Fix :=
  [⟨.insert, .empty 10, "$".toList⟩, ⟨.replace, ⟨5, 7, by decide⟩, "xyz".toList⟩,
    ⟨.delete, ⟨3, 5, by decide⟩, []⟩, ⟨.insert, .empty 0, "^".toList⟩]

/-- The first fix is made at the beginning and the last one at the end. -/
theorem applyAll_eq_foldr_digits :
    applyAll "0123456789".toList digitFixes = .ok ("^01256789$".toList, 3) ∧
      "^01256789$".toList = (select digitFixes).foldr applyTo "0123456789".toList ∧
      (∃ kept : List Text, kept.length = 4 ∧
        kept.flatten = uncovered 0 (select digitFixes) "0123456789".toList ∧
        "^01256789$".toList = interlace kept ((select digitFixes).map Fix.text)) ∧
      ("^01256789$".toList.length : Int) =
        "0123456789".toList.length + ((select digitFixes).map growth).sum := by
  have hpass : applyAll "0123456789".toList digitFixes = .ok ("^01256789$".toList, 3) := by rfl
  obtain ⟨-, -, -, hfold, hkept, hlength⟩ := applyAll_eq_foldr hpass
  exact ⟨hpass, hfold, hkept, hlength⟩

end Fix

end TextDomain
