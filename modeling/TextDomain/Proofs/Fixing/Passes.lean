import TextDomain.Lint

/-!
# Fixing pass by pass

Fixing is a run of accepted passes that ends for one of five reasons: nothing
can be fixed, nothing was applied, the result is not well-formed, the result
is no better, or the limit is reached. Whichever it is, the text and the
diagnostics that are returned are those of the last accepted pass, so every
statement about fixing is one about a single accepted pass and an induction
over the run.

## Main results

* `fixPass_accepted` — what an accepted pass is.
* `Accepts.of_fixPasses` — fixing is a run of accepted passes.
* `Accepts.text_ne_iff` — a run changes the text exactly when it lowers the
  number of diagnostics.
-/

namespace TextDomain

variable {policy : Policy} {file : Text}

/-! ## One pass -/

/-- An accepted pass has applied at least one fix, its text is well-formed, its
diagnostics are those of its text, and there are fewer than before. -/
theorem fixPass_accepted {text fixed : Text} {ds remaining : List Diagnostic}
    (h : fixPass policy file text ds = .ok (.accepted fixed remaining)) :
    (∃ n, Fix.applyAll text (fixesOf ds) = .ok (fixed, n + 1)) ∧
      lint fixed policy file = .ok remaining ∧ remaining.length < ds.length := by
  unfold fixPass at h
  split at h
  next => cases h
  next f fs hfixes =>
    rw [hfixes]
    split at h
    next => cases h
    next => cases h
    next fixed' n happly =>
      split at h
      next => cases h
      next => cases h
      next => cases h
      next remaining' hlint =>
        split at h
        next hlt =>
          cases h
          exact ⟨⟨n, happly⟩, hlint, hlt⟩
        next => cases h

/-! ## Runs -/

/-- `Accepts policy file text ds text' ds'`: some number of accepted passes
leads from a text with its diagnostics to another one. -/
inductive Accepts (policy : Policy) (file : Text) :
    Text → List Diagnostic → Text → List Diagnostic → Prop where
  /-- No pass at all. -/
  | refl (text : Text) (ds : List Diagnostic) : Accepts policy file text ds text ds
  /-- One accepted pass, and then the others. -/
  | step {text fixed text' : Text} {ds remaining ds' : List Diagnostic}
      (first : fixPass policy file text ds = .ok (.accepted fixed remaining))
      (others : Accepts policy file fixed remaining text' ds') :
      Accepts policy file text ds text' ds'

namespace Accepts

/-- Whatever ends fixing, it has been a run of accepted passes. -/
theorem of_fixPasses {passes : Nat} {text : Text} {ds : List Diagnostic} {r : Fixed}
    (h : fixPasses policy file passes text ds = .ok r) :
    Accepts policy file text ds r.text r.diagnostics := by
  induction passes generalizing text ds with
  | zero =>
    cases h
    exact refl text ds
  | succ passes ih =>
    unfold fixPasses at h
    split at h
    next => cases h
    next =>
      cases h
      exact refl text ds
    next =>
      cases h
      exact refl text ds
    next fixed remaining hpass => exact step hpass (ih h)

variable {text text' : Text} {ds ds' : List Diagnostic}

/-- Along a run the diagnostics stay those of the text. -/
theorem lint_eq (h : Accepts policy file text ds text' ds')
    (hlint : lint text policy file = .ok ds) : lint text' policy file = .ok ds' := by
  induction h with
  | refl => exact hlint
  | step first _ ih => exact ih (fixPass_accepted first).2.1

/-- A run of no passes changes nothing; any other has fewer diagnostics in the
end. -/
theorem eq_or_length_lt (h : Accepts policy file text ds text' ds') :
    (text' = text ∧ ds' = ds) ∨ ds'.length < ds.length := by
  induction h with
  | refl => exact .inl ⟨rfl, rfl⟩
  | step first _ ih =>
    have hlt := (fixPass_accepted first).2.2
    rcases ih with ⟨-, rfl⟩ | ih
    · exact .inr hlt
    · exact .inr (by omega)

/-- A run changes the text exactly when it lowers the number of diagnostics:
with the text of the beginning the diagnostics of the beginning would be back. -/
theorem text_ne_iff (h : Accepts policy file text ds text' ds')
    (hlint : lint text policy file = .ok ds) : text' ≠ text ↔ ds'.length < ds.length := by
  constructor
  · intro hne
    rcases h.eq_or_length_lt with ⟨htext, -⟩ | hlt
    · exact absurd htext hne
    · exact hlt
  · rintro hlt rfl
    have hsame : ds' = ds := Except.ok.inj ((h.lint_eq hlint).symm.trans hlint)
    rw [hsame] at hlt
    exact Nat.lt_irrefl _ hlt

end Accepts

/-! ## Fixing a source -/

/-- Fixing begins with the diagnostics of the source and makes a run of
accepted passes. -/
theorem accepts_of_fixSource {text : Text} {r : Fixed}
    (h : fixSource text policy file = .ok r) :
    ∃ ds, lint text policy file = .ok ds ∧
      Accepts policy file text ds r.text r.diagnostics := by
  unfold fixSource at h
  split at h
  next => cases h
  next ds hlint => exact ⟨ds, hlint, .of_fixPasses h⟩

/-- The text and the diagnostics that fixing returns belong together, there
are no more diagnostics than at first, and the text has changed exactly when
there are fewer. -/
theorem lint_of_fixSource {text : Text} {r : Fixed}
    (h : fixSource text policy file = .ok r) :
    lint r.text policy file = .ok r.diagnostics ∧
      ∃ ds, lint text policy file = .ok ds ∧ r.diagnostics.length ≤ ds.length ∧
        (r.text ≠ text ↔ r.diagnostics.length < ds.length) := by
  obtain ⟨ds, hlint, hrun⟩ := accepts_of_fixSource h
  refine ⟨hrun.lint_eq hlint, ds, hlint, ?_, hrun.text_ne_iff hlint⟩
  rcases hrun.eq_or_length_lt with ⟨-, hds⟩ | hlt
  · exact Nat.le_of_eq (congrArg List.length hds)
  · exact Nat.le_of_lt hlt

theorem eq_ok_of_toOption {ε α : Type} {e : Except ε α} {a : α} (h : e.toOption = some a) :
    e = .ok a := by
  cases e with
  | error _ => cases h
  | ok b => exact congrArg Except.ok (Option.some.inj h)

/-- One pass is accepted, which also fills a slot of the second call; the next
one resolves nothing and ends fixing. -/
theorem lint_of_fixSource_short_call :
    ∃ r, fixSource "__('a')\n_n('b')".toList { allowed := ["d".toList] } [] = .ok r ∧
      r.text = "__('a', 'd')\n_n('b', 'd')".toList ∧
      lint r.text { allowed := ["d".toList] } [] = .ok r.diagnostics ∧
      ∃ ds, lint "__('a')\n_n('b')".toList { allowed := ["d".toList] } [] = .ok ds ∧
        r.diagnostics.length ≤ ds.length ∧
        (r.text ≠ "__('a')\n_n('b')".toList ↔ r.diagnostics.length < ds.length) := by
  have htext : (fixSource "__('a')\n_n('b')".toList { allowed := ["d".toList] } []).toOption.map
      Fixed.text = some "__('a', 'd')\n_n('b', 'd')".toList := by decide +kernel
  obtain ⟨r, hr, htext⟩ := Option.map_eq_some_iff.1 htext
  have hok : fixSource "__('a')\n_n('b')".toList { allowed := ["d".toList] } [] = .ok r :=
    eq_ok_of_toOption hr
  exact ⟨r, hok, htext, lint_of_fixSource hok⟩

end TextDomain
