import TextDomain.Sort
import TextDomain.Span

/-!
# Fixes

A fix replaces one span of a text by another text. Many fixes are applied in
one pass: they are taken in the order of their spans, and a fix that begins at
or before the end of the last one taken is put off to a later pass. Which fixes
are taken does not depend on the text; only afterwards is it checked that they
lie inside it.

`splice` then builds the new text from left to right: the part of the text
before the first fix, its replacement, and so on.

## Main results

* `separated_select` — any two fixes that are taken have at least one
  character between them.
* `apply_eq_error_iff` — a pass fails exactly when a fix that is taken reaches
  past the end of the text.
-/

namespace TextDomain

/-- What a fix does to the text. -/
inductive FixKind where
  /-- Puts something in. -/
  | insert
  /-- Puts one thing in the place of another. -/
  | replace
  /-- Takes something away. -/
  | delete
deriving DecidableEq

namespace FixKind

/-- The word for the kind in the output. -/
def word : FixKind → Text
  | .insert => "insert".toList
  | .replace => "replace".toList
  | .delete => "delete".toList

/-- The kind that a word stands for. -/
def ofWord? (w : Text) : Option FixKind :=
  [FixKind.insert, .replace, .delete].find? fun k => k.word == w

end FixKind

/-- A text edit. -/
structure Fix where
  /-- What it does. -/
  kind : FixKind
  /-- What it replaces; empty for an insertion. -/
  span : Span
  /-- What comes in its place. -/
  text : Text
deriving DecidableEq

namespace Fix

/-- Checks a fix as a host describes it: its range, then its kind. -/
def build (kind : Text) (offsets : List Int) (text : Text) : Except ContractError Fix := do
  let span ← Span.ofOffsets .fix offsets
  match FixKind.ofWord? kind with
  | some k => .ok ⟨k, span, text⟩
  | none => .error (.unknownFixKind kind)

/-- A fix on a pair of offsets, which is checked. -/
def onPair (kind : FixKind) (start stop : Int) (text : Text) : Except ContractError Fix := do
  let span ← Span.ofPair .fix start stop
  .ok ⟨kind, span, text⟩

/-- Exactly the valid pairs of offsets give a fix, and it has what it was made from. -/
theorem onPair_eq_ok_iff {kind : FixKind} {start stop : Int} {text : Text} {f : Fix} :
    onPair kind start stop text = .ok f ↔
      f.kind = kind ∧ f.span.offsets = [start, stop] ∧ f.text = text := by
  have hspan : ∀ s : Span, Span.ofPair .fix start stop = .ok s ↔ [start, stop] = s.offsets := by
    intro s
    show Span.ofOffsets .fix [start, stop] = .ok s ↔ [start, stop] = s.offsets
    exact Span.ofOffsets_ok_iff
  unfold onPair
  cases hmade : Span.ofPair .fix start stop with
  | error e =>
    constructor
    · intro h
      cases h
    · rintro ⟨-, hoffsets, -⟩
      rw [(hspan f.span).2 hoffsets.symm] at hmade
      cases hmade
  | ok s =>
    constructor
    · intro h
      obtain rfl := Except.ok.inj h
      exact ⟨rfl, ((hspan s).1 hmade).symm, rfl⟩
    · rintro ⟨rfl, hoffsets, rfl⟩
      rw [(hspan f.span).2 hoffsets.symm] at hmade
      obtain rfl := Except.ok.inj hmade
      rfl

/-! ## Choosing -/

/-- The fixes in the order of their spans; those of one span keep their order. -/
def inSpanOrder (fixes : List Fix) : List Fix := sortBy (fun a b => a.span.le b.span) fixes

/-- Takes every fix that begins after the end of the last one taken. -/
def selectAfter : Option Nat → List Fix → List Fix
  | _, [] => []
  | none, f :: rest => f :: selectAfter (some f.span.stop) rest
  | some last, f :: rest =>
    if last < f.span.start then f :: selectAfter (some f.span.stop) rest
    else selectAfter (some last) rest

/-- The fixes that one pass takes, in ascending order. -/
def select (fixes : List Fix) : List Fix := selectAfter none (inSpanOrder fixes)

/-- The first fix ends before the second begins, with a character between. -/
def Separated (a b : Fix) : Prop := a.span.stop < b.span.start

theorem lt_start_of_mem_selectAfter {last : Nat} {fixes : List Fix} {f : Fix}
    (h : f ∈ selectAfter (some last) fixes) : last < f.span.start := by
  induction fixes generalizing last with
  | nil => simp [selectAfter] at h
  | cons g rest ih =>
    simp only [selectAfter] at h
    split at h
    next hlt =>
      rcases List.mem_cons.1 h with rfl | h
      · exact hlt
      · have h₁ := ih h
        have h₂ := g.span.start_le_stop
        omega
    next => exact ih h

theorem separated_selectAfter (last : Option Nat) (fixes : List Fix) :
    (selectAfter last fixes).Pairwise Separated := by
  induction fixes generalizing last with
  | nil => simp [selectAfter]
  | cons g rest ih =>
    have hcons : (g :: selectAfter (some g.span.stop) rest).Pairwise Separated :=
      List.pairwise_cons.2 ⟨fun f hf => lt_start_of_mem_selectAfter hf, ih _⟩
    cases last with
    | none => exact hcons
    | some last =>
      simp only [selectAfter]
      split
      · exact hcons
      · exact ih _

theorem selectAfter_sublist (last : Option Nat) (fixes : List Fix) :
    (selectAfter last fixes).Sublist fixes := by
  induction fixes generalizing last with
  | nil => simp [selectAfter]
  | cons g rest ih =>
    cases last with
    | none => exact (ih _).cons_cons g
    | some last =>
      simp only [selectAfter]
      split
      · exact (ih _).cons_cons g
      · exact (ih _).cons g

/-- The fixes that are taken are some of those in the order of their spans. -/
theorem select_sublist (fixes : List Fix) : (select fixes).Sublist (inSpanOrder fixes) :=
  selectAfter_sublist none _

/-- Any two fixes that are taken have a character between them. -/
theorem separated_select (fixes : List Fix) : (select fixes).Pairwise Separated :=
  separated_selectAfter none _

/-! ## Applying -/

/-- The text from offset `cursor` on, with the fixes carried out; they lie
after the cursor, in ascending order. -/
def splice (cursor : Nat) (text : Text) : List Fix → Text
  | [] => text.drop cursor
  | f :: rest =>
    (text.drop cursor).take (f.span.start - cursor) ++ f.text ++ splice f.span.stop text rest

/-- One pass: the new text and the number of fixes carried out. -/
def applyAll (text : Text) (fixes : List Fix) : Except ContractError (Text × Nat) :=
  let taken := select fixes
  match taken.find? fun f => decide (text.length < f.span.stop) with
  | some f => .error (.fixBeyondSource f.span text.length)
  | none => .ok (splice 0 text taken, taken.length)

/-- A pass fails exactly when a fix that is taken reaches past the end of the
text, and the error names the first such fix. -/
theorem apply_eq_error_iff {text : Text} {fixes : List Fix} {e : ContractError} :
    applyAll text fixes = .error e ↔
      ∃ f, (select fixes).find? (fun f => decide (text.length < f.span.stop)) = some f ∧
        e = .fixBeyondSource f.span text.length := by
  simp only [applyAll]
  split
  next f hf =>
    constructor
    · intro h; cases h; exact ⟨f, hf, rfl⟩
    · rintro ⟨g, hg, rfl⟩; rw [hf] at hg; cases hg; rfl
  next hnone =>
    constructor
    · intro h; cases h
    · rintro ⟨g, hg, -⟩; rw [hnone] at hg; cases hg

end Fix

end TextDomain
