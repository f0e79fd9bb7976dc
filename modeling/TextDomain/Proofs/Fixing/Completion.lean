import TextDomain.Proofs.Fixing.Contract
import TextDomain.Proofs.Fixing.Passes
import TextDomain.Proofs.Source.Inside

/-!
# Fixing comes to an end

Whether a text can be linted is decided by the text alone: it has to be
well-formed. Fixing goes through many texts, and one of them need not be
well-formed; then its pass is discarded, which is no failure. A pass could fail
only by a fix that reaches past the end of its text, and no fix does that,
because it ends with an argument of its call at the latest.

So a well-formed text is fixed and any other text is refused, under every policy
and every file name.

## Main results

* `lint_of_not_wellFormed` — other texts are refused, always for the same reason.
* `fix_stop_le_length` — the fixes of a text lie inside it.
* `WellFormed.fixSource_ok` — fixing a well-formed text comes to an end.
-/

namespace TextDomain

/-- A text that has a tree and no NUL in it. -/
def WellFormed (text : Text) : Prop :=
  text.contains (Char.ofNat 0) = false ∧ (Node.ofSource? text).isSome = true

instance (text : Text) : Decidable (WellFormed text) := inferInstanceAs (Decidable (_ ∧ _))

variable {text file : Text} {policy : Policy}

/-! ## Linting -/

/-- The calls of a well-formed text are recorded. -/
theorem WellFormed.collectCalls_ok (h : WellFormed text) (file : Text) :
    ∃ calls, collectCalls text file = .ok calls ∧
      ∀ call ∈ calls, Node.CallSite.Recorded text call := by
  obtain ⟨hnull, htree⟩ := h
  obtain ⟨n, hn⟩ := Option.isSome_iff_exists.1 htree
  obtain ⟨calls, hcalls, hrecorded⟩ := Node.records_of_placed (Node.placed_of_ofSource? hn) file
  refine ⟨calls, ?_, hrecorded⟩
  unfold collectCalls
  rw [hnull, hn]
  simp only [hcalls]
  rfl

theorem WellFormed.lint_ok (h : WellFormed text) (policy : Policy) (file : Text) :
    ∃ ds, lint text policy file = .ok ds := by
  obtain ⟨calls, hcalls, hrecorded⟩ := h.collectCalls_ok file
  obtain ⟨ds, hds⟩ := exists_checkCalls_ok (fun c hc => (hrecorded c hc).spaced) policy
  exact ⟨ds, by simp only [lint, hcalls, hds]⟩

/-- A text that is not well-formed is refused with the same fault under every
policy and file name. -/
theorem lint_of_not_wellFormed (h : ¬ WellFormed text) :
    ∃ e, (e = .nullByte ∨ e = .malformed) ∧ ∀ policy file, lint text policy file = .error e := by
  by_cases hnull : text.contains (Char.ofNat 0) = true
  · refine ⟨.nullByte, .inl rfl, ?_⟩
    intro policy file
    simp only [lint, collectCalls, hnull]
    rfl
  · have hnone : Node.ofSource? text = none := by
      by_contra hsome
      exact h ⟨Bool.eq_false_iff.2 hnull, Option.isSome_iff_ne_none.2 hsome⟩
    refine ⟨.malformed, .inr rfl, ?_⟩
    intro policy file
    simp only [lint, collectCalls, hnone]
    rw [if_neg hnull]

/-- The diagnostics of a text are those of its calls. -/
theorem checkCalls_of_lint {calls : List Call} {ds : List Diagnostic}
    (hcalls : collectCalls text file = .ok calls) (h : lint text policy file = .ok ds) :
    checkCalls policy calls = .ok ds := by
  simp only [lint, hcalls] at h
  cases hds : checkCalls policy calls with
  | error e =>
    rw [hds] at h
    cases h
  | ok ds' =>
    rw [hds] at h
    obtain rfl := Except.ok.inj h
    rfl

theorem wellFormed_of_lint {ds : List Diagnostic} (h : lint text policy file = .ok ds) :
    WellFormed text := by
  by_contra hnot
  obtain ⟨e, -, he⟩ := lint_of_not_wellFormed hnot
  rw [he] at h
  cases h

/-! ## Fixes inside the text -/

/-- What checking several calls comes to, if it succeeds. -/
theorem checkCalls_cons_eq_ok {c : Call} {rest : List Call} {ds : List Diagnostic}
    (h : checkCalls policy (c :: rest) = .ok ds) :
    ∃ d? more, checkCall c policy = .ok d? ∧ checkCalls policy rest = .ok more ∧
      ds = d?.toList ++ more := by
  rw [checkCalls] at h
  cases hc : checkCall c policy with
  | error e =>
    rw [hc] at h
    cases h
  | ok d? =>
    cases hrest : checkCalls policy rest with
    | error e =>
      rw [hc, hrest] at h
      cases h
    | ok more =>
      rw [hc, hrest] at h
      exact ⟨d?, more, rfl, rfl, (Except.ok.inj h).symm⟩

/-- Every diagnostic is that of a call. -/
theorem exists_call_of_mem_checkCalls {calls : List Call} {ds : List Diagnostic}
    (h : checkCalls policy calls = .ok ds) {d : Diagnostic} (hd : d ∈ ds) :
    ∃ c ∈ calls, checkCall c policy = .ok (some d) := by
  induction calls generalizing ds with
  | nil =>
    obtain rfl := Except.ok.inj h
    cases hd
  | cons c rest ih =>
    obtain ⟨d?, more, hc, hrest, rfl⟩ := checkCalls_cons_eq_ok h
    rcases List.mem_append.1 hd with hd | hd
    · refine ⟨c, List.mem_cons_self .., ?_⟩
      rw [hc, Option.mem_toList.1 hd]
    · obtain ⟨c', hc', hcheck⟩ := ih hrest hd
      exact ⟨c', List.mem_cons_of_mem c hc', hcheck⟩

/-- Every fix of a text is attached to a call that is recorded from it. -/
theorem exists_attachedFix_of_lint {ds : List Diagnostic} (h : lint text policy file = .ok ds)
    {f : Fix} (hf : f ∈ fixesOf ds) :
    ∃ calls, collectCalls text file = .ok calls ∧
      ∃ c ∈ calls, Node.CallSite.Recorded text c ∧ AttachedFix policy c f := by
  obtain ⟨calls, hcalls, hrecorded⟩ := (wellFormed_of_lint h).collectCalls_ok file
  obtain ⟨d, hd, hfix⟩ := List.mem_filterMap.1 hf
  obtain ⟨c, hc, hcheck⟩ := exists_call_of_mem_checkCalls (checkCalls_of_lint hcalls h) hd
  exact ⟨calls, hcalls, c, hc, hrecorded c hc, attachedFix_of_checkCall hcheck hfix⟩

/-- The fixes of a text lie inside it. -/
theorem fix_stop_le_length {ds : List Diagnostic} (h : lint text policy file = .ok ds) {f : Fix}
    (hf : f ∈ fixesOf ds) : f.span.stop ≤ text.length := by
  obtain ⟨calls, hcalls, c, hc, hrecorded, hattached⟩ := exists_attachedFix_of_lint h hf
  obtain ⟨_, -, hat⟩ := hattached.fixAt hrecorded.spaced.apart
  obtain ⟨a, ha, hle⟩ := hat.exists_stop_le
  exact hle.trans (stop_le_length_of_collectCalls hcalls hc ha)

/-! ## Passes -/

namespace Fix

/-- Fixes inside the text can be applied. -/
theorem applyAll_ok {fixes : List Fix} (h : ∀ f ∈ fixes, f.span.stop ≤ text.length) :
    ∃ r, applyAll text fixes = .ok r := by
  have hnone : (select fixes).find? (fun f => decide (text.length < f.span.stop)) = none := by
    rw [List.find?_eq_none]
    intro f hf
    have hle := h f (mem_sortBy.1 ((select_sublist fixes).subset hf))
    simp only [decide_eq_true_eq]
    omega
  exact ⟨_, by simp only [applyAll, hnone]; rfl⟩

end Fix

theorem fixPass_ok {ds : List Diagnostic} (h : lint text policy file = .ok ds) :
    ∃ pass, fixPass policy file text ds = .ok pass := by
  unfold fixPass
  cases hfixes : fixesOf ds with
  | nil => exact ⟨.done, rfl⟩
  | cons f fs =>
    have hinside : ∀ g ∈ f :: fs, g.span.stop ≤ text.length := by
      intro g hg
      rw [← hfixes] at hg
      exact fix_stop_le_length h hg
    obtain ⟨⟨fixed, n⟩, happly⟩ := Fix.applyAll_ok hinside
    simp only [happly]
    cases n with
    | zero => exact ⟨.done, rfl⟩
    | succ n =>
      by_cases hfixed : WellFormed fixed
      · obtain ⟨remaining, hremaining⟩ := hfixed.lint_ok policy file
        simp only [hremaining]
        split <;> exact ⟨_, rfl⟩
      · obtain ⟨e, rfl | rfl, he⟩ := lint_of_not_wellFormed hfixed
        · simp only [he]
          exact ⟨.discarded, rfl⟩
        · simp only [he]
          exact ⟨.discarded, rfl⟩

theorem fixPasses_ok (passes : Nat) {ds : List Diagnostic} (h : lint text policy file = .ok ds) :
    ∃ r, fixPasses policy file passes text ds = .ok r := by
  induction passes generalizing text ds with
  | zero => exact ⟨_, rfl⟩
  | succ passes ih =>
    obtain ⟨pass, hpass⟩ := fixPass_ok h
    unfold fixPasses
    rw [hpass]
    cases pass with
    | done => exact ⟨_, rfl⟩
    | discarded => exact ⟨_, rfl⟩
    | accepted fixed remaining => exact ih (fixPass_accepted hpass).2.1

/-- Fixing a well-formed text comes to an end. -/
theorem WellFormed.fixSource_ok (h : WellFormed text) (policy : Policy) (file : Text) :
    ∃ r, fixSource text policy file = .ok r := by
  obtain ⟨ds, hds⟩ := h.lint_ok policy file
  obtain ⟨r, hr⟩ := fixPasses_ok maxPasses hds
  exact ⟨r, by simp only [fixSource, hds, hr]⟩

end TextDomain
