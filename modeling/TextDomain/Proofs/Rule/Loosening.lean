import TextDomain.Proofs.Fixing.Completion

/-!
# The same source under two policies

A policy is loosened by letting domains be left out or by allowing more of them.
Of a call, evaluation finds out what it is a call of and what stands in the domain
slot before it ever looks at the policy; only whether a missing domain counts, and
whether a literal one is allowed, is left to the policy. In both questions a looser
policy is the more lenient one, so it reports some of the calls that the other one
reports, although not always for the same reason.

Where domains are allowed in another order, nothing changes at all. Which of them
is listed first matters neither to the reports nor to the fixes, since a domain is
put in only if it is the only one.

## Main results

* `isReported_of_loosened` — a looser policy reports no other calls.
* `forall₂_reportedCalls` — diagnostics and reported calls answer to each other.
* `lint_of_loosened` — what this means for linting a source.
-/

namespace TextDomain

variable {policy policy' : Policy} {c : Call} {calls : List Call}

/-! ## Reported calls -/

/-- Whether checking a call gives a diagnostic. -/
def isReported (policy : Policy) (c : Call) : Bool :=
  match checkCall c policy with
  | .ok (some _) => true
  | _ => false

theorem isReported_eq_true_iff :
    isReported policy c = true ↔ ∃ d, checkCall c policy = .ok (some d) := by
  unfold isReported
  split
  next d h => simp [h]
  next h => simpa using h

/-- The calls that are reported, in their order. -/
def reportedCalls (policy : Policy) (calls : List Call) : List Call :=
  calls.filter (isReported policy)

/-- Diagnostics and reported calls answer to each other, one by one. -/
theorem forall₂_reportedCalls {ds : List Diagnostic} (h : checkCalls policy calls = .ok ds) :
    List.Forall₂ (fun c d => checkCall c policy = .ok (some d)) (reportedCalls policy calls) ds := by
  induction calls generalizing ds with
  | nil =>
    obtain rfl := Except.ok.inj h
    exact .nil
  | cons c rest ih =>
    obtain ⟨d?, more, hc, hrest, rfl⟩ := checkCalls_cons_eq_ok h
    cases d? with
    | none =>
      have hnot : isReported policy c = false := by simp only [isReported, hc]
      rw [reportedCalls, List.filter_cons_of_neg (by simp [hnot])]
      exact ih hrest
    | some d =>
      have hreported : isReported policy c = true := isReported_eq_true_iff.2 ⟨d, hc⟩
      rw [reportedCalls, List.filter_cons_of_pos hreported]
      exact .cons hc (ih hrest)

/-! ## Looser policies -/

/-- The second policy accepts whatever the first one does. -/
structure Policy.LoosenedTo (p p' : Policy) : Prop where
  allowDefault : p.allowDefault = true → p'.allowDefault = true
  allows : ∀ domain, p.allows domain = true → p'.allows domain = true

/-- What a looser policy reports is reported, if checking does not fail. -/
theorem isReported_of_loosened (hloose : policy.LoosenedTo policy') {d? : Option Diagnostic}
    (h : checkCall c policy = .ok d?) (hreported : isReported policy' c = true) :
    isReported policy c = true := by
  obtain ⟨d', h'⟩ := isReported_eq_true_iff.1 hreported
  rw [isReported_eq_true_iff]
  cases c.evaluation with
  | foreign callee =>
    rw [checkCall_of_foreign callee] at h'
    cases h'
  | short callee short =>
    rw [checkCall_of_short callee short] at h' ⊢
    by_cases hoptional : policy.allowDefault = true
    · rw [if_pos (hloose.allowDefault hoptional)] at h'
      cases h'
    · rw [if_neg hoptional]
      exact ⟨_, rfl⟩
  | other callee slot content =>
    rw [checkCall_of_other callee slot content]
    exact ⟨_, rfl⟩
  | @literal _ _ value callee slot content =>
    rw [checkCall_of_literal callee slot content] at h h' ⊢
    by_cases hallowed : policy.allows value = true
    · rw [if_pos (hloose.allows value hallowed)] at h'
      cases h'
    · -- A domain that is not allowed is reported or has no place for its fix.
      rw [if_neg hallowed] at h ⊢
      split at h
      next hdefault =>
        rw [if_pos hdefault]
        obtain ⟨fix, -, rfl⟩ := map_eq_ok_iff.1 h
        exact ⟨_, h⟩
      next hdefault =>
        rw [if_neg hdefault]
        obtain ⟨fix?, -, rfl⟩ := map_eq_ok_iff.1 h
        exact ⟨_, h⟩

theorem reportedCalls_sublist (hloose : policy.LoosenedTo policy') {ds : List Diagnostic}
    (h : checkCalls policy calls = .ok ds) :
    (reportedCalls policy' calls).Sublist (reportedCalls policy calls) := by
  have hchecked : ∀ c ∈ calls, ∃ d?, checkCall c policy = .ok d? := by
    induction calls generalizing ds with
    | nil => exact fun c hc => nomatch hc
    | cons c rest ih =>
      obtain ⟨d?, more, hc, hrest, -⟩ := checkCalls_cons_eq_ok h
      intro c' hc'
      rcases List.mem_cons.1 hc' with rfl | hc'
      · exact ⟨d?, hc⟩
      · exact ih hrest c' hc'
  have hfewer : reportedCalls policy' calls =
      (reportedCalls policy calls).filter (isReported policy') := by
    rw [reportedCalls, reportedCalls, List.filter_filter]
    apply List.filter_congr
    intro c hc
    obtain ⟨d?, hd⟩ := hchecked c hc
    cases hreported : isReported policy' c with
    | false => rfl
    | true => rw [isReported_of_loosened hloose hd hreported, Bool.and_self]
  rw [hfewer]
  exact List.filter_sublist

/-! ## Domains in another order -/

theorem Policy.allows_of_perm (h : policy.allowed.Perm policy'.allowed) (domain : Text) :
    policy.allows domain = policy'.allows domain := by
  rw [Bool.eq_iff_iff, allows_iff, allows_iff, h.mem_iff]

theorem Policy.onlyAllowed?_of_perm (h : policy.allowed.Perm policy'.allowed) :
    policy.onlyAllowed? = policy'.onlyAllowed? := by
  ext domain
  rw [onlyAllowed?_eq_some_iff, onlyAllowed?_eq_some_iff]
  constructor
  · intro hsingle
    rw [hsingle, List.singleton_perm] at h
    exact h.symm
  · intro hsingle
    rw [hsingle, List.perm_singleton] at h
    exact h

/-- A policy counts by whether the domain may be left out, by the domains that it
allows, and by the only one of them. -/
theorem checkCall_congr (hdefault : policy.allowDefault = policy'.allowDefault)
    (hallows : ∀ domain, policy.allows domain = policy'.allows domain)
    (honly : policy.onlyAllowed? = policy'.onlyAllowed?) (c : Call) :
    checkCall c policy = checkCall c policy' := by
  have hstatus : policy.statusOf = policy'.statusOf := by
    funext value
    cases value with
    | text t => simp only [Policy.statusOf, hallows]
    | _ => rfl
  have hevaluate : evaluate c policy = evaluate c policy' := by
    simp only [evaluate, hstatus]
  have hreport : ∀ status domain?,
      report c status domain? policy = report c status domain? policy' := by
    intro status domain?
    have hinsertion : insertionFix c policy = insertionFix c policy' := by
      simp only [insertionFix, honly]
    have hreplacement : ∀ d, replacementFix d policy = replacementFix d policy' := by
      intro d
      simp only [replacementFix, honly]
    simp only [report, hdefault, hinsertion, hreplacement]
  simp only [checkCall, hevaluate, hreport]

theorem checkCalls_congr (h : ∀ c, checkCall c policy = checkCall c policy') (calls : List Call) :
    checkCalls policy calls = checkCalls policy' calls := by
  induction calls with
  | nil => rfl
  | cons c rest ih => rw [checkCalls, checkCalls, h, ih]

/-! ## Linting -/

/-- The calls that a looser policy reports are some of those that are reported, in
the same order. With the same domains allowed in another order, linting comes to the
same. -/
theorem lint_of_loosened (text file : Text) (policy policy' : Policy) :
    (policy.LoosenedTo policy' → ∀ ds ds', lint text policy file = .ok ds →
        lint text policy' file = .ok ds' →
        ∃ calls, collectCalls text file = .ok calls ∧
          List.Forall₂ (fun c d => checkCall c policy = .ok (some d))
            (reportedCalls policy calls) ds ∧
          List.Forall₂ (fun c d => checkCall c policy' = .ok (some d))
            (reportedCalls policy' calls) ds' ∧
          (reportedCalls policy' calls).Sublist (reportedCalls policy calls)) ∧
      (policy.allowDefault = policy'.allowDefault → policy.allowed.Perm policy'.allowed →
        lint text policy file = lint text policy' file) := by
  constructor
  · intro hloose ds ds' h h'
    obtain ⟨calls, hcalls, -⟩ := (wellFormed_of_lint h).collectCalls_ok file
    have hchecked := checkCalls_of_lint hcalls h
    have hchecked' := checkCalls_of_lint hcalls h'
    exact ⟨calls, hcalls, forall₂_reportedCalls hchecked, forall₂_reportedCalls hchecked',
      reportedCalls_sublist hloose hchecked⟩
  · intro hdefault hperm
    have hcheck := checkCall_congr hdefault (Policy.allows_of_perm hperm)
      (Policy.onlyAllowed?_of_perm hperm)
    simp only [lint, checkCalls_congr hcheck]

/-- One call without a domain, one with another domain and one with a name for it. -/
def threeCalls : Text := "__('a')\n__('b', 'x')\n__('c', d)".toList

/-- Of three calls, a policy that allows more reports the one whose domain is no
literal. -/
theorem lint_of_loosened_three_calls :
    (∃ ds ds' calls, lint threeCalls { allowed := ["y".toList] } [] = .ok ds ∧ ds.length = 3 ∧
      lint threeCalls { allowDefault := true, allowed := ["x".toList, "y".toList] } [] = .ok ds' ∧
      ds'.length = 1 ∧ collectCalls threeCalls [] = .ok calls ∧
      (reportedCalls { allowDefault := true, allowed := ["x".toList, "y".toList] } calls).Sublist
        (reportedCalls { allowed := ["y".toList] } calls)) ∧
      lint threeCalls { allowed := ["x".toList, "y".toList] } [] =
        lint threeCalls { allowed := ["y".toList, "x".toList] } [] := by
  have hcounts : (lint threeCalls { allowed := ["y".toList] } []).toOption.map List.length =
        some 3 ∧
      (lint threeCalls { allowDefault := true, allowed := ["x".toList, "y".toList] }
        []).toOption.map List.length = some 1 := by
    decide +kernel
  obtain ⟨ds, hds, hthree⟩ := Option.map_eq_some_iff.1 hcounts.1
  obtain ⟨ds', hds', hone⟩ := Option.map_eq_some_iff.1 hcounts.2
  have hloose : Policy.LoosenedTo { allowed := ["y".toList] }
      { allowDefault := true, allowed := ["x".toList, "y".toList] } := by
    refine ⟨fun _ => rfl, ?_⟩
    intro domain hdomain
    simp only [Policy.allows, List.contains_eq_mem, decide_eq_true_eq] at hdomain ⊢
    exact List.mem_cons_of_mem _ hdomain
  have hlint := eq_ok_of_toOption hds
  have hlint' := eq_ok_of_toOption hds'
  constructor
  · obtain ⟨calls, hcalls, -, -, hsub⟩ :=
      (lint_of_loosened threeCalls [] _ _).1 hloose ds ds' hlint hlint'
    exact ⟨ds, ds', calls, hlint, hthree, hlint', hone, hcalls, hsub⟩
  · exact (lint_of_loosened threeCalls [] _ _).2 rfl (List.Perm.swap _ _ [])

end TextDomain
