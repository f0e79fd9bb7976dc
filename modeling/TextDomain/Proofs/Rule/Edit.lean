import TextDomain.Rule

/-!
# The edits of a policy

A policy makes three kinds of edit: it puts the only allowed domain in behind the
arguments of a call, puts it in the place of a literal domain, or takes a domain away.
`Call.Insertion`, `Argument.Replacement` and `Argument.Removal` say which edit that is,
by the places of the arguments alone; the rule makes exactly these.

Two of them can fail. A removal begins where an argument ends before the domain, and
arguments that touch leave no such place. A replacement lies between two markers, and a
range may be too short for both.

## Main results

* `insertionFix_eq_iff`, `replacementFix_eq_ok_iff`, `removalFix_eq_ok_iff` — the rule
  makes the edits described here.
* `replacementFix_eq_error_iff`, `removalFix_eq_error_iff` — when an edit cannot be made.
-/

namespace TextDomain

/-! ## Steps that can fail -/

section Except

variable {α β ε : Type} {x : Except ε α} {f : α → β}

theorem map_eq_ok_iff {b : β} : f <$> x = .ok b ↔ ∃ a, x = .ok a ∧ f a = b := by
  cases x with
  | error e =>
    constructor
    · intro h
      cases h
    · rintro ⟨a, ⟨⟩, -⟩
  | ok a =>
    constructor
    · intro h
      exact ⟨a, rfl, Except.ok.inj h⟩
    · rintro ⟨_, ⟨⟩, rfl⟩
      rfl

theorem map_eq_error_iff {e : ε} : f <$> x = .error e ↔ x = .error e := by
  cases x with
  | error e' =>
    constructor
    · intro h
      rw [Except.error.inj h]
    · intro h
      rw [h]
      rfl
  | ok a =>
    constructor
    · intro h
      cases h
    · intro h
      cases h

end Except

/-- Seen from the end, the first element of a kind is the last one. -/
theorem find?_reverse_eq_some_iff {α : Type} {p : α → Bool} {l : List α} {x : α} :
    l.reverse.find? p = some x ↔
      p x = true ∧ ∃ before after, l = before ++ x :: after ∧ ∀ y ∈ after, p y = false := by
  rw [List.find?_eq_some_iff_append]
  refine and_congr_right fun _ => ?_
  constructor
  · rintro ⟨after, before, hsplit, hafter⟩
    refine ⟨before.reverse, after.reverse, ?_, by simpa using hafter⟩
    rw [← List.reverse_reverse l, hsplit]
    simp
  · rintro ⟨before, after, rfl, hafter⟩
    exact ⟨after.reverse, before.reverse, by simp, by simpa using hafter⟩

/-! ## Fixes on pairs of offsets -/

theorem Fix.onPair_of_le {kind : FixKind} {start stop : Nat} {text : Text} (h : start ≤ stop) :
    Fix.onPair kind start stop text = .ok ⟨kind, ⟨start, stop, h⟩, text⟩ := by
  simp only [Fix.onPair, Span.ofPair]
  rw [dif_pos ⟨Int.natCast_nonneg start, Int.ofNat_le.2 h⟩]
  rfl

/-- No fix is made on a pair of offsets that is no span. -/
theorem Fix.onPair_eq_error_iff {kind : FixKind} {start stop : Int} {text : Text}
    {e : ContractError} :
    Fix.onPair kind start stop text = .error e ↔
      ¬ (0 ≤ start ∧ start ≤ stop) ∧ e = .invalidSpan .fix start stop := by
  unfold Fix.onPair Span.ofPair
  by_cases h : 0 ≤ start ∧ start ≤ stop
  · rw [dif_pos h]
    constructor
    · intro herror
      cases herror
    · rintro ⟨hnot, -⟩
      exact absurd h hnot
  · rw [dif_neg h]
    constructor
    · intro herror
      exact ⟨h, (Except.error.inj herror).symm⟩
    · rintro ⟨-, rfl⟩
      rfl

variable {policy : Policy} {c : Call} {args : List Argument} {arg : Argument}

/-! ## Insertions -/

/-- What a policy puts in behind the arguments of a call. -/
inductive Call.Insertion (policy : Policy) (c : Call) : Option Fix → Prop where
  /-- The only allowed domain, behind a last argument that ends before the call. -/
  | made {domain : Text} {last : Argument} (only : policy.allowed = [domain])
      (anchor : c.arguments.getLast? = some last) (room : last.span.stop < c.span.stop) :
      c.Insertion policy (some ⟨.insert, .empty last.span.stop, ", '".toList ++ domain ++ ['\'']⟩)
  /-- Nothing, for there is no domain or a choice of them. -/
  | undecided (several : policy.allowed.length ≠ 1) : c.Insertion policy none
  /-- Nothing, for no last argument ends before the call. -/
  | closed (full : ∀ last, c.arguments.getLast? = some last → c.span.stop ≤ last.span.stop) :
      c.Insertion policy none

theorem insertionFix_eq_iff {fix? : Option Fix} :
    insertionFix c policy = fix? ↔ c.Insertion policy fix? := by
  constructor
  · rintro rfl
    unfold insertionFix
    split
    next domain last only anchor =>
      split
      next hfull =>
        refine .closed fun last' anchor' => ?_
        obtain rfl := Option.some.inj (anchor.symm.trans anchor')
        exact hfull
      next hroom =>
        exact .made (Policy.onlyAllowed?_eq_some_iff.1 only) anchor (Nat.lt_of_not_le hroom)
    next hnone =>
      cases only : policy.onlyAllowed? with
      | none => exact .undecided (Policy.onlyAllowed?_eq_none_iff.1 only)
      | some domain => exact .closed fun last anchor => absurd anchor (hnone domain last only)
  · intro h
    unfold insertionFix
    cases h with
    | made only anchor room =>
      rw [Policy.onlyAllowed?_eq_some_iff.2 only, anchor]
      exact if_neg (Nat.not_le.2 room)
    | undecided several => rw [Policy.onlyAllowed?_eq_none_iff.2 several]
    | closed full =>
      split
      next domain last only anchor => exact if_pos (full last anchor)
      next => rfl

/-! ## Replacements -/

/-- What a policy puts in the place of a literal domain. -/
inductive Argument.Replacement (policy : Policy) (arg : Argument) : Option Fix → Prop where
  /-- The only allowed domain, between the markers. -/
  | between {domain : Text} {m : Literal.Markers} {span : Span} (only : policy.allowed = [domain])
      (markers : Literal.markers? arg.source = some m)
      (start : span.start = arg.span.start + m.opening)
      (stop : span.stop + m.closing = arg.span.stop) :
      arg.Replacement policy (some ⟨.replace, span, domain⟩)
  /-- A new literal, where the markers are not known. -/
  | whole {domain : Text} (only : policy.allowed = [domain])
      (markers : Literal.markers? arg.source = none) :
      arg.Replacement policy (some ⟨.replace, arg.span, '\'' :: domain ++ ['\'']⟩)
  /-- Nothing, for there is no domain or a choice of them. -/
  | undecided (several : policy.allowed.length ≠ 1) : arg.Replacement policy none

/-- Without an only allowed domain there is no replacement. -/
theorem replacementFix_of_undecided {d : Domain} (several : policy.allowed.length ≠ 1) :
    replacementFix d policy = .ok none := by
  rw [replacementFix, Policy.onlyAllowed?_eq_none_iff.2 several]

/-- Without known markers, all of the domain is replaced. -/
theorem replacementFix_of_whole {domain : Text} (only : policy.allowed = [domain])
    (markers : Literal.markers? arg.source = none) :
    replacementFix (.ofArgument args arg) policy =
      .ok (some ⟨.replace, arg.span, '\'' :: domain ++ ['\'']⟩) := by
  simp only [replacementFix, Policy.onlyAllowed?_eq_some_iff.2 only, Domain.ofArgument, markers]
  rw [Fix.onPair_of_le arg.span.start_le_stop]
  rfl

/-- Between known markers, the value of the domain is replaced. -/
theorem replacementFix_of_between {domain : Text} {m : Literal.Markers}
    (only : policy.allowed = [domain]) (markers : Literal.markers? arg.source = some m) :
    replacementFix (.ofArgument args arg) policy =
      some <$> Fix.onPair .replace (arg.span.start + m.opening) (arg.span.stop - m.closing)
        domain := by
  simp only [replacementFix, Policy.onlyAllowed?_eq_some_iff.2 only, Domain.ofArgument, markers]

/-- How many domains are allowed, and whether the markers of a literal are known. -/
theorem Argument.replacement_cases (policy : Policy) (arg : Argument) :
    policy.allowed.length ≠ 1 ∨
      (∃ domain, policy.allowed = [domain] ∧ Literal.markers? arg.source = none) ∨
      ∃ domain m, policy.allowed = [domain] ∧ Literal.markers? arg.source = some m := by
  by_cases hlength : policy.allowed.length = 1
  · obtain ⟨domain, only⟩ := List.length_eq_one_iff.1 hlength
    cases markers : Literal.markers? arg.source with
    | none => exact .inr (.inl ⟨domain, only, rfl⟩)
    | some m => exact .inr (.inr ⟨domain, m, only, rfl⟩)
  · exact .inl hlength

theorem replacementFix_eq_ok_iff {fix? : Option Fix} :
    replacementFix (.ofArgument args arg) policy = .ok fix? ↔ arg.Replacement policy fix? := by
  constructor
  · intro h
    rcases arg.replacement_cases policy with
      several | ⟨domain, only, markers⟩ | ⟨domain, m, only, markers⟩
    · rw [replacementFix_of_undecided several] at h
      obtain rfl := Except.ok.inj h
      exact .undecided several
    · rw [replacementFix_of_whole only markers] at h
      obtain rfl := Except.ok.inj h
      exact .whole only markers
    · rw [replacementFix_of_between only markers] at h
      obtain ⟨⟨kind, span, text⟩, hmade, rfl⟩ := map_eq_ok_iff.1 h
      obtain ⟨hkind, hoffsets, htext⟩ := Fix.onPair_eq_ok_iff.1 hmade
      obtain rfl : kind = .replace := hkind
      obtain rfl : text = domain := htext
      simp only [Span.offsets, List.cons.injEq, and_true] at hoffsets
      exact .between only markers (by omega) (by omega)
  · intro h
    cases h with
    | undecided several => exact replacementFix_of_undecided several
    | whole only markers => exact replacementFix_of_whole only markers
    | between only markers start stop =>
      rw [replacementFix_of_between only markers, map_eq_ok_iff]
      refine ⟨_, Fix.onPair_eq_ok_iff.2 ⟨rfl, ?_, rfl⟩, rfl⟩
      simp only [Span.offsets, List.cons.injEq, and_true]
      omega

/-- A replacement fails exactly if the domain is shorter than its two markers. -/
theorem replacementFix_eq_error_iff {e : ContractError} :
    replacementFix (.ofArgument args arg) policy = .error e ↔
      ∃ domain m, policy.allowed = [domain] ∧ Literal.markers? arg.source = some m ∧
        arg.span.length < m.opening + m.closing ∧
        e = .invalidSpan .fix (arg.span.start + m.opening) (arg.span.stop - m.closing) := by
  have hproper := arg.span.start_le_stop
  constructor
  · intro h
    rcases arg.replacement_cases policy with
      several | ⟨domain, only, markers⟩ | ⟨domain, m, only, markers⟩
    · rw [replacementFix_of_undecided several] at h
      cases h
    · rw [replacementFix_of_whole only markers] at h
      cases h
    · rw [replacementFix_of_between only markers, map_eq_error_iff,
        Fix.onPair_eq_error_iff] at h
      obtain ⟨hnot, rfl⟩ := h
      exact ⟨domain, m, only, markers, by rw [Span.length]; omega, rfl⟩
  · rintro ⟨domain, m, only, markers, hshort, rfl⟩
    rw [replacementFix_of_between only markers, map_eq_error_iff, Fix.onPair_eq_error_iff]
    rw [Span.length] at hshort
    exact ⟨by omega, rfl⟩

/-! ## Removals -/

/-- What is taken away with an argument: everything from the end of the last argument
that ends before it. -/
inductive Argument.Removal (args : List Argument) (arg : Argument) : Fix → Prop where
  /-- There is an argument that ends before this one, and none behind it does. -/
  | made {before after : List Argument} {previous : Argument} {span : Span}
      (split : args = before ++ previous :: after)
      (precedes : previous.span.stop < arg.span.start)
      (last : ∀ a ∈ after, arg.span.start ≤ a.span.stop)
      (start : span.start = previous.span.stop) (stop : span.stop = arg.span.stop) :
      arg.Removal args ⟨.delete, span, []⟩

/-- The search for what precedes the domain finds the last argument that does. -/
theorem find?_precedes_iff {previous : Argument} :
    (Domain.ofArgument args arg).arguments.reverse.find?
        (fun a => decide ((a.span.stop : Int) < (Domain.ofArgument args arg).start)) =
        some previous ↔
      previous.span.stop < arg.span.start ∧ ∃ before after, args = before ++ previous :: after ∧
        ∀ a ∈ after, arg.span.start ≤ a.span.stop := by
  show args.reverse.find? (fun a => decide ((a.span.stop : Int) < (arg.span.start : Int))) = _ ↔ _
  simp only [find?_reverse_eq_some_iff, decide_eq_true_eq, decide_eq_false_iff_not, Int.ofNat_lt,
    Nat.not_lt]

theorem removalFix_eq_ok_iff {fix : Fix} :
    removalFix (.ofArgument args arg) = .ok fix ↔ arg.Removal args fix := by
  constructor
  · intro h
    unfold removalFix at h
    split at h
    next => cases h
    next previous hprevious =>
      obtain ⟨precedes, before, after, split, last⟩ := find?_precedes_iff.1 hprevious
      obtain ⟨kind, span, text⟩ := fix
      obtain ⟨hkind, hoffsets, htext⟩ := Fix.onPair_eq_ok_iff.1 h
      obtain rfl : kind = .delete := hkind
      obtain rfl : text = [] := htext
      simp only [Domain.ofArgument, Span.offsets, List.cons.injEq, and_true,
        Int.natCast_inj] at hoffsets
      exact .made split precedes last hoffsets.1 hoffsets.2
  · rintro ⟨split, precedes, last, start, stop⟩
    have hprevious := find?_precedes_iff.2 ⟨precedes, _, _, split, last⟩
    rw [removalFix, hprevious]
    refine Fix.onPair_eq_ok_iff.2 ⟨rfl, ?_, rfl⟩
    simp only [Domain.ofArgument, Span.offsets, start, stop]

/-- A removal fails exactly if no argument ends before the domain begins. -/
theorem removalFix_eq_error_iff {e : ContractError} :
    removalFix (.ofArgument args arg) = .error e ↔
      (∀ a ∈ args, arg.span.start ≤ a.span.stop) ∧
        e = .nothingPrecedes arg.span.start arg.span.stop := by
  unfold removalFix
  split
  next hnone =>
    have hfirst : ∀ a ∈ args, arg.span.start ≤ a.span.stop := by
      simpa [Domain.ofArgument, List.find?_eq_none] using hnone
    constructor
    · intro h
      exact ⟨hfirst, (Except.error.inj h).symm⟩
    · rintro ⟨-, rfl⟩
      rfl
  next previous hprevious =>
    obtain ⟨precedes, before, after, split, -⟩ := find?_precedes_iff.1 hprevious
    -- What ends before the domain begins ends before the domain does.
    have hspan : (0 : Int) ≤ previous.span.stop ∧ (previous.span.stop : Int) ≤ arg.span.stop := by
      have := arg.span.start_le_stop
      omega
    constructor
    · intro h
      exact absurd hspan (Fix.onPair_eq_error_iff.1 h).1
    · rintro ⟨hfirst, -⟩
      have hmem : previous ∈ args := split ▸ List.mem_append_right before (List.mem_cons_self ..)
      exact absurd precedes (Nat.not_lt.2 (hfirst previous hmem))

end TextDomain
