import TextDomain.Proofs.Fixing.Passes

/-!
# Fixing twice

Fixing ends either because a pass was not accepted or because the passes are
used up. In the first case the same pass ends a second run at once, with the
same notice. In the second case every pass has taken at least one diagnostic
away, so a source with no more diagnostics than there are passes has none left.

What remains are sources that still have diagnostics after the last pass; for
these a second run may go on where the first one stopped.

## Main results

* `accepted_add_length_le` — every accepted pass costs a diagnostic.
* `settled_or_used_up` — a run that does not use up its passes is settled.
* `fixSource_of_fixSource` — fixing what has been fixed changes nothing.
-/

namespace TextDomain

variable {policy : Policy} {file : Text}

/-! ## Counting passes -/

/-- How many of at most the given number of passes are accepted. -/
def acceptedWithin (policy : Policy) (file : Text) : Nat → Text → List Diagnostic → Nat
  | 0, _, _ => 0
  | passes + 1, text, ds =>
    match fixPass policy file text ds with
    | .ok (.accepted fixed remaining) => acceptedWithin policy file passes fixed remaining + 1
    | _ => 0

/-- How many passes are accepted when a source is fixed. -/
def acceptedPasses (text : Text) (policy : Policy) (file : Text) : Nat :=
  match lint text policy file with
  | .error _ => 0
  | .ok ds => acceptedWithin policy file maxPasses text ds

theorem acceptedPasses_eq {text : Text} {ds : List Diagnostic}
    (h : lint text policy file = .ok ds) :
    acceptedPasses text policy file = acceptedWithin policy file maxPasses text ds := by
  simp only [acceptedPasses, h]

/-- Every accepted pass costs a diagnostic. -/
theorem accepted_add_length_le {passes : Nat} {text : Text} {ds : List Diagnostic} {r : Fixed}
    (h : fixPasses policy file passes text ds = .ok r) :
    acceptedWithin policy file passes text ds + r.diagnostics.length ≤ ds.length := by
  induction passes generalizing text ds with
  | zero =>
    cases h
    simp [acceptedWithin]
  | succ passes ih =>
    unfold fixPasses at h
    unfold acceptedWithin
    split at h
    next => cases h
    next hpass =>
      cases h
      simp [hpass]
    next hpass =>
      cases h
      simp [hpass]
    next fixed remaining hpass =>
      have hlt := (fixPass_accepted hpass).2.2
      have hle := ih h
      simp only [hpass]
      omega

/-! ## Settled results -/

/-- A result that further passes leave as it is, with the notice that it came
with. -/
def Fixed.Settled (policy : Policy) (file : Text) (r : Fixed) : Prop :=
  ∀ passes, 0 < passes → fixPasses policy file passes r.text r.diagnostics = .ok r ∧
    acceptedWithin policy file passes r.text r.diagnostics = 0

theorem settled_of_done {text : Text} {ds : List Diagnostic}
    (h : fixPass policy file text ds = .ok .done) : Fixed.Settled policy file ⟨text, ds, []⟩ := by
  intro passes hpos
  cases passes with
  | zero => omega
  | succ passes => simp [fixPasses, acceptedWithin, h]

theorem settled_of_discarded {text : Text} {ds : List Diagnostic}
    (h : fixPass policy file text ds = .ok .discarded) :
    Fixed.Settled policy file ⟨text, ds, [.fixesDiscarded file]⟩ := by
  intro passes hpos
  cases passes with
  | zero => omega
  | succ passes => simp [fixPasses, acceptedWithin, h]

/-- A run that does not use up its passes is settled. One that does has met no
reason for a notice. -/
theorem settled_or_used_up {passes : Nat} {text : Text} {ds : List Diagnostic} {r : Fixed}
    (h : fixPasses policy file passes text ds = .ok r) :
    r.Settled policy file ∨
      acceptedWithin policy file passes text ds = passes ∧ r.notices = [] := by
  induction passes generalizing text ds with
  | zero =>
    cases h
    exact .inr ⟨rfl, rfl⟩
  | succ passes ih =>
    unfold fixPasses at h
    unfold acceptedWithin
    split at h
    next => cases h
    next hpass =>
      cases h
      exact .inl (settled_of_done hpass)
    next hpass =>
      cases h
      exact .inl (settled_of_discarded hpass)
    next fixed remaining hpass =>
      simp only [hpass]
      rcases ih h with hsettled | ⟨hused, hnotices⟩
      · exact .inl hsettled
      · exact .inr ⟨by omega, hnotices⟩

/-! ## Fixing a source twice -/

/-- If a pass is left over, or if there were no more diagnostics than passes,
then fixing the result gives the result again, notice included, and accepts no
pass. -/
theorem fixSource_of_fixSource {text : Text} {ds : List Diagnostic} {r : Fixed}
    (h : fixSource text policy file = .ok r) (hlint : lint text policy file = .ok ds)
    (hfew : acceptedPasses text policy file < maxPasses ∨ ds.length ≤ maxPasses) :
    fixSource r.text policy file = .ok r ∧ acceptedPasses r.text policy file = 0 := by
  have hrun : fixPasses policy file maxPasses text ds = .ok r := by
    simpa only [fixSource, hlint] using h
  have hremaining : lint r.text policy file = .ok r.diagnostics :=
    (Accepts.of_fixPasses hrun).lint_eq hlint
  have hsettled : r.Settled policy file := by
    rcases settled_or_used_up hrun with hsettled | ⟨hused, hnotices⟩
    · exact hsettled
    · -- All passes were accepted, so each of them has resolved a diagnostic.
      have hcost := accepted_add_length_le hrun
      have hnone : r.diagnostics = [] := by
        rw [acceptedPasses_eq hlint] at hfew
        rw [← List.length_eq_zero_iff]
        omega
      obtain ⟨fixed, remaining, notices⟩ := r
      simp only at hnotices hnone
      subst hnotices hnone
      exact settled_of_done rfl
  obtain ⟨hagain, hnone⟩ := hsettled maxPasses (by decide)
  constructor
  · simpa only [fixSource, hremaining] using hagain
  · rw [acceptedPasses_eq hremaining]
    exact hnone

/-- Every pass lengthens the second and the third call by an argument; three of
them are accepted, one for each call. -/
theorem fixSource_of_fixSource_three_passes :
    ∃ r ds, fixSource "__('a')\n_x('b')\n_n('c')".toList { allowed := ["d".toList] } [] = .ok r ∧
      lint "__('a')\n_x('b')\n_n('c')".toList { allowed := ["d".toList] } [] = .ok ds ∧
      acceptedPasses "__('a')\n_x('b')\n_n('c')".toList { allowed := ["d".toList] } [] = 3 ∧
      r.text = "__('a', 'd')\n_x('b', 'd', 'd')\n_n('c', 'd', 'd', 'd')".toList ∧
      fixSource r.text { allowed := ["d".toList] } [] = .ok r ∧
      acceptedPasses r.text { allowed := ["d".toList] } [] = 0 := by
  have hpasses : acceptedPasses "__('a')\n_x('b')\n_n('c')".toList
      { allowed := ["d".toList] } [] = 3 := by decide +kernel
  have htext : (fixSource "__('a')\n_x('b')\n_n('c')".toList
      { allowed := ["d".toList] } []).toOption.map Fixed.text =
        some "__('a', 'd')\n_x('b', 'd', 'd')\n_n('c', 'd', 'd', 'd')".toList := by
    decide +kernel
  obtain ⟨r, hr, htext⟩ := Option.map_eq_some_iff.1 htext
  have hok : fixSource "__('a')\n_x('b')\n_n('c')".toList { allowed := ["d".toList] } [] = .ok r :=
    eq_ok_of_toOption hr
  obtain ⟨ds, hlint, -⟩ := accepts_of_fixSource hok
  have hagain := fixSource_of_fixSource hok hlint (.inl (by rw [hpasses]; decide))
  exact ⟨r, ds, hok, hlint, hpasses, htext, hagain⟩

end TextDomain
