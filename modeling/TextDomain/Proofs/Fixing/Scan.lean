import TextDomain.Proofs.Fixing.Separation

/-!
# A pass in one go

`applyAll` chooses the fixes before it looks at the text, checks those that it has
chosen, and only then writes. A pass can do all of this at once: it goes through the
fixes with what is written so far in hand, and ends in an error at the first fix that
it would take but that reaches past the end of the text. `inOneGo` is that pass. It
decides about a fix before it knows whether those behind it can be taken at all.

The two come to the same, error included, which is what makes the choice independent
of the text: a fix past the end does harm only if it is chosen, and since the ends of
the chosen fixes ascend, the last of them tells whether there is one.

## Main results

* `Fix.Draft.finish_foldlM` — what going through the fixes in one go comes to.
* `Fix.select_select` — choosing again among the chosen fixes changes nothing.
* `Fix.applyAll_fails_iff` — when a pass fails, and which fix it names.
-/

namespace TextDomain

namespace Fix

/-! ## Going through the fixes -/

/-- A new text in the making. -/
structure Draft where
  /-- What has been written of it. -/
  written : Text := []
  /-- Up to where the old text has been used. -/
  cursor : Nat := 0
  /-- The end of the last fix that was taken. -/
  last : Option Nat := none
  /-- How many fixes were taken. -/
  applied : Nat := 0

namespace Draft

/-- Writes the old text up to a fix, and the text of the fix. -/
def carryOut (text : Text) (d : Draft) (f : Fix) : Draft where
  written := d.written ++ (text.drop d.cursor).take (f.span.start - d.cursor) ++ f.text
  cursor := f.span.stop
  last := some f.span.stop
  applied := d.applied + 1

/-- Looks at the next fix. One that begins at or before the end of the last one taken is put
off, whatever it is; another one is carried out if it lies in the text. -/
def lookAt (text : Text) (d : Draft) (f : Fix) : Except ContractError Draft :=
  if d.last.any (fun stop => decide (f.span.start ≤ stop)) then .ok d
  else if text.length < f.span.stop then .error (.fixBeyondSource f.span text.length)
  else .ok (d.carryOut text f)

/-- Writes the rest of the old text. -/
def finish (text : Text) (d : Draft) : Text × Nat := (d.written ++ text.drop d.cursor, d.applied)

end Draft

/-- A pass that chooses, checks and writes at once. -/
def inOneGo (text : Text) (fixes : List Fix) : Except ContractError (Text × Nat) :=
  Draft.finish text <$> (inSpanOrder fixes).foldlM (Draft.lookAt text) {}

theorem selectAfter_cons (last : Option Nat) (f : Fix) (rest : List Fix) :
    selectAfter last (f :: rest) =
      if last.any (fun stop => decide (f.span.start ≤ stop)) then selectAfter last rest
      else f :: selectAfter (some f.span.stop) rest := by
  cases last with
  | none => rfl
  | some stop =>
    by_cases h : stop < f.span.start
    · have hfree : ¬ f.span.start ≤ stop := Nat.not_le_of_lt h
      simp [selectAfter, h, hfree]
    · have hblocked : f.span.start ≤ stop := Nat.le_of_not_lt h
      simp [selectAfter, h, hblocked]

namespace Draft

variable {text : Text} {d : Draft} {f : Fix}

/-- What becomes of a draft when the fixes are known that will be taken: an error for the
first one past the end of the text, or else the new text. -/
def complete (text : Text) (d : Draft) (taken : List Fix) : Except ContractError (Text × Nat) :=
  match taken.find? fun f => decide (text.length < f.span.stop) with
  | some f => .error (.fixBeyondSource f.span text.length)
  | none => .ok (d.written ++ splice d.cursor text taken, d.applied + taken.length)

theorem complete_nil : d.complete text [] = .ok (d.finish text) := rfl

theorem complete_of_beyond (h : text.length < f.span.stop) (rest : List Fix) :
    d.complete text (f :: rest) = .error (.fixBeyondSource f.span text.length) := by
  simp only [complete, List.find?_cons, h, decide_true]

/-- To take a fix inside the text is to carry it out and go on with the others. -/
theorem complete_of_inside (h : ¬ text.length < f.span.stop) (rest : List Fix) :
    d.complete text (f :: rest) = (d.carryOut text f).complete text rest := by
  simp only [complete, List.find?_cons, h, decide_false, carryOut, splice, List.append_assoc,
    List.length_cons, Nat.add_assoc, Nat.add_comm 1]

/-- Going through the fixes in one go comes to what the fixes chosen beforehand come to. -/
theorem finish_foldlM (d : Draft) (fixes : List Fix) :
    finish text <$> fixes.foldlM (lookAt text) d = d.complete text (selectAfter d.last fixes) := by
  induction fixes generalizing d with
  | nil => rw [selectAfter, complete_nil]; rfl
  | cons f rest ih =>
    rw [List.foldlM_cons, selectAfter_cons, lookAt]
    by_cases hblocked : d.last.any (fun stop => decide (f.span.start ≤ stop)) = true
    · rw [if_pos hblocked, if_pos hblocked, ← ih d]
      rfl
    · rw [if_neg hblocked, if_neg hblocked]
      by_cases hbeyond : text.length < f.span.stop
      · rw [if_pos hbeyond, complete_of_beyond hbeyond]
        rfl
      · rw [if_neg hbeyond, complete_of_inside hbeyond]
        exact ih (d.carryOut text f)

end Draft

/-- Choosing, checking and writing one after the other comes to the same as all at once. -/
theorem applyAll_eq_inOneGo (text : Text) (fixes : List Fix) :
    applyAll text fixes = inOneGo text fixes := by
  rw [inOneGo, Draft.finish_foldlM]
  simp only [Draft.complete, List.nil_append, Nat.zero_add]
  rfl

/-! ## Fixes past the end -/

/-- Choosing again among the fixes that are chosen changes nothing. -/
theorem select_select (fixes : List Fix) : select (select fixes) = select fixes := by
  have hordered : (select fixes).Pairwise fun a b => a.span.le b.span = true :=
    (pairwise_inSpanOrder fixes).sublist (select_sublist fixes)
  have hsorted : inSpanOrder (select fixes) = select fixes := sortBy_eq_self hordered
  rw [select, hsorted]
  apply selectAfter_eq_self none _ (separated_select fixes)
  intro _ hnone
  cases hnone

/-- Of fixes in ascending order, one reaches past an offset exactly if the last one does. -/
theorem exists_beyond_iff_getLast? {fixes : List Fix} (h : fixes.Pairwise Separated)
    (length : Nat) :
    (∃ f ∈ fixes, length < f.span.stop) ↔ ∃ f ∈ fixes.getLast?, length < f.span.stop := by
  constructor
  · rintro ⟨f, hf, hbeyond⟩
    cases hlast : fixes.getLast? with
    | none =>
      rw [List.getLast?_eq_none_iff.1 hlast] at hf
      cases hf
    | some last =>
      obtain ⟨before, rfl⟩ := List.getLast?_eq_some_iff.1 hlast
      refine ⟨last, rfl, ?_⟩
      rcases List.mem_append.1 hf with hf | hf
      · have hseparated : f.span.stop < last.span.start :=
          (List.pairwise_append.1 h).2.2 f hf last (List.mem_singleton_self last)
        have := last.span.start_le_stop
        omega
      · obtain rfl := List.mem_singleton.1 hf
        exact hbeyond
  · rintro ⟨f, hf, hbeyond⟩
    exact ⟨f, List.mem_of_getLast? hf, hbeyond⟩

variable {text : Text} {fixes : List Fix}

/-- A pass fails exactly if one of the fixes that it takes reaches past the end. -/
theorem exists_error_iff :
    (∃ e, applyAll text fixes = .error e) ↔ ∃ f ∈ select fixes, text.length < f.span.stop := by
  simp only [apply_eq_error_iff]
  constructor
  · rintro ⟨e, f, hfind, -⟩
    have hbeyond := List.find?_some hfind
    exact ⟨f, List.mem_of_find?_eq_some hfind, of_decide_eq_true hbeyond⟩
  · rintro ⟨f, hf, hbeyond⟩
    have hfound : ((select fixes).find? fun f => decide (text.length < f.span.stop)).isSome :=
      List.find?_isSome.2 ⟨f, hf, decide_eq_true hbeyond⟩
    obtain ⟨g, hg⟩ := Option.isSome_iff_exists.1 hfound
    exact ⟨_, g, hg, rfl⟩

/-- The error of a pass names the first of the fixes that it takes that reaches past the end. -/
theorem applyAll_eq_error_iff_first {e : ContractError} :
    applyAll text fixes = .error e ↔
      ∃ before f after, select fixes = before ++ f :: after ∧
        (∀ g ∈ before, g.span.stop ≤ text.length) ∧ text.length < f.span.stop ∧
        e = .fixBeyondSource f.span text.length := by
  simp only [apply_eq_error_iff, List.find?_eq_some_iff_append, decide_eq_true_eq,
    Bool.not_eq_true', decide_eq_false_iff_not, Nat.not_lt]
  constructor
  · rintro ⟨f, ⟨hbeyond, before, after, heq, hbefore⟩, he⟩
    exact ⟨before, f, after, heq, hbefore, hbeyond, he⟩
  · rintro ⟨before, f, after, heq, hbefore, hbeyond, he⟩
    exact ⟨f, ⟨hbeyond, before, after, heq, hbefore⟩, he⟩

/-- A pass fails exactly if the fixes that it chooses without a look at the text have one
among them that reaches past the end, which is to say if the last of them does. The error
names the first one that does. Fixes that are put off may lie anywhere: without them
the outcome is the same. -/
theorem applyAll_fails_iff (text : Text) (fixes : List Fix) :
    applyAll text fixes = inOneGo text fixes ∧
      ((∃ e, applyAll text fixes = .error e) ↔
        ∃ f ∈ select fixes, text.length < f.span.stop) ∧
      ((∃ e, applyAll text fixes = .error e) ↔
        ∃ f ∈ (select fixes).getLast?, text.length < f.span.stop) ∧
      (∀ e, applyAll text fixes = .error e ↔
        ∃ before f after, select fixes = before ++ f :: after ∧
          (∀ g ∈ before, g.span.stop ≤ text.length) ∧ text.length < f.span.stop ∧
          e = .fixBeyondSource f.span text.length) ∧
      applyAll text fixes = applyAll text (select fixes) := by
  have hlast : (∃ f ∈ select fixes, text.length < f.span.stop) ↔
      ∃ f ∈ (select fixes).getLast?, text.length < f.span.stop :=
    exists_beyond_iff_getLast? (separated_select fixes) text.length
  have hchosen : applyAll text fixes = applyAll text (select fixes) := by
    simp only [applyAll, select_select]
  exact ⟨applyAll_eq_inOneGo text fixes, exists_error_iff, exists_error_iff.trans hlast,
    fun _ => applyAll_eq_error_iff_first, hchosen⟩

/-- A fix past the end of the text that is put off does no harm. -/
example : applyAll "0123".toList
    [⟨.replace, ⟨2, 9, by decide⟩, "x".toList⟩, ⟨.insert, .empty 2, "!".toList⟩] =
      .ok ("01!23".toList, 1) := by
  rfl

end Fix

end TextDomain
