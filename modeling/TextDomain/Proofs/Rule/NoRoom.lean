import TextDomain.Proofs.Rule.AttachedFix

/-!
# Where a fix has no room

Checking a call cannot go wrong as long as no fix is wanted. A removal needs an
argument that ends before the domain begins, a replacement a domain that is as long as
its two markers. Hosts may hand over arguments that touch and sources that are longer
than their ranges, so either can be lacking.

That is all that can go wrong. A call with all its required arguments has one in the
domain slot, so an empty slot is never evaluated, and no domain is reported that is not
there.

## Main results

* `checkCall_eq_error_iff` — checking fails exactly where a fix that is wanted has no
  room.
* `check_fails_iff_noRoom` — the same for both ways to check a call, and what neither of
  them meets.
-/

namespace TextDomain

variable {policy : Policy} {c : Call} {e : ContractError}

/-- `c.NoRoom policy e`: the policy wants a fix of the call that cannot be made, for the
reason `e`. -/
inductive Call.NoRoom (policy : Policy) (c : Call) : ContractError → Prop where
  /-- The default domain is to be removed, but no argument ends before it begins. -/
  | removal {f : GettextFunction} {arg : Argument}
      (callee : GettextFunction.ofName? c.functionName = some f)
      (slot : c.arguments[f.domainIndex.toNat]? = some arg)
      (content : arg.content = .literal defaultDomain)
      (refused : defaultDomain ∉ policy.allowed)
      (permitted : policy.allowDefault = true)
      (first : ∀ a ∈ c.arguments, arg.span.start ≤ a.span.stop) :
      c.NoRoom policy (.nothingPrecedes arg.span.start arg.span.stop)
  /-- The domain is to be replaced, but is shorter than its two markers. -/
  | replacement {f : GettextFunction} {arg : Argument} {value domain : Text} {m : Literal.Markers}
      (callee : GettextFunction.ofName? c.functionName = some f)
      (slot : c.arguments[f.domainIndex.toNat]? = some arg)
      (content : arg.content = .literal value)
      (refused : value ∉ policy.allowed)
      (required : ¬ (value = defaultDomain ∧ policy.allowDefault = true))
      (only : policy.allowed = [domain])
      (markers : Literal.markers? arg.source = some m)
      (short : arg.span.length < m.opening + m.closing) :
      c.NoRoom policy (.invalidSpan .fix (arg.span.start + m.opening) (arg.span.stop - m.closing))

theorem Call.NoRoom.isGettext (h : c.NoRoom policy e) : c.IsGettext := by
  cases h with
  | removal callee => exact Option.isSome_of_eq_some callee
  | replacement callee => exact Option.isSome_of_eq_some callee

/-- Checking fails exactly where a fix that is wanted has no room. -/
theorem checkCall_eq_error_iff : checkCall c policy = .error e ↔ c.NoRoom policy e := by
  constructor
  · intro h
    cases c.evaluation with
    | foreign callee =>
      rw [checkCall_of_foreign callee] at h
      cases h
    | short callee short =>
      rw [checkCall_of_short callee short] at h
      split at h
      next => cases h
      next => cases h
    | other callee slot content =>
      rw [checkCall_of_other callee slot content] at h
      cases h
    | literal callee slot content =>
      rw [checkCall_of_literal callee slot content] at h
      split at h
      next => cases h
      next hrefused =>
        have refused := mt Policy.allows_iff.2 hrefused
        split at h
        next hdefault =>
          obtain ⟨rfl, permitted⟩ := hdefault
          obtain ⟨first, rfl⟩ := removalFix_eq_error_iff.1 (map_eq_error_iff.1 h)
          exact .removal callee slot content refused permitted first
        next required =>
          obtain ⟨domain, m, only, markers, short, rfl⟩ :=
            replacementFix_eq_error_iff.1 (map_eq_error_iff.1 h)
          exact .replacement callee slot content refused required only markers short
  · intro h
    cases h with
    | removal callee slot content refused permitted first =>
      rw [checkCall_of_literal callee slot content, if_neg (mt Policy.allows_iff.1 refused),
        if_pos ⟨rfl, permitted⟩, map_eq_error_iff]
      exact removalFix_eq_error_iff.2 ⟨first, rfl⟩
    | replacement callee slot content refused required only markers short =>
      rw [checkCall_of_literal callee slot content, if_neg (mt Policy.allows_iff.1 refused),
        if_neg required, map_eq_error_iff]
      exact replacementFix_eq_error_iff.2 ⟨_, _, only, markers, short, rfl⟩

/-- The other way to check a call gives its status and the fix of what is reported. -/
theorem validate_eq (c : Call) (policy : Policy) :
    validate c policy =
      (fun d? => ((evaluate c policy).map (·.status), d?.bind (·.fix))) <$> checkCall c policy := by
  unfold validate checkCall
  cases evaluate c policy with
  | none => rfl
  | some o => cases report c o.status o.domain policy <;> rfl

/-- What is evaluated has something in the domain slot unless arguments are left out. -/
theorem domain_eq_none_iff {o : Outcome} (h : evaluate c policy = some o) :
    o.domain = none ↔ o.status = .missing := by
  cases c.evaluation with
  | foreign _ eq =>
    rw [eq] at h
    cases h
  | short _ _ eq =>
    rw [eq] at h
    obtain rfl := Option.some.inj h
    exact ⟨fun _ => rfl, fun _ => rfl⟩
  | other _ _ _ eq =>
    rw [eq] at h
    obtain rfl := Option.some.inj h
    exact ⟨nofun, nofun⟩
  | @literal _ _ value _ _ _ eq =>
    rw [eq] at h
    obtain rfl := Option.some.inj h
    cases policy.allows value
    · exact ⟨nofun, nofun⟩
    · exact ⟨nofun, nofun⟩

/-- Both ways to check a call fail in the same cases and for the same reason: a fix is
wanted that has no room. No domain is reported that is not there, and the domain slot of
a call with all its required arguments is never empty. -/
theorem check_fails_iff_noRoom (c : Call) (policy : Policy) :
    (∀ e, checkCall c policy = .error e ↔ c.NoRoom policy e) ∧
      (∀ e, validate c policy = .error e ↔ c.NoRoom policy e) ∧
      checkCall c policy ≠ .error .domainMissing ∧ validate c policy ≠ .error .domainMissing ∧
      ∀ o, evaluate c policy = some o → (o.domain = none ↔ o.status = .missing) := by
  have hvalidate : ∀ e, validate c policy = .error e ↔ c.NoRoom policy e := by
    intro e
    rw [validate_eq, map_eq_error_iff, checkCall_eq_error_iff]
  refine ⟨fun e => checkCall_eq_error_iff, hvalidate, ?_, ?_, fun o => domain_eq_none_iff⟩
  · rw [ne_eq, checkCall_eq_error_iff]
    exact nofun
  · rw [ne_eq, hvalidate]
    exact nofun

/-- The domain begins where the argument before it ends. -/
example : checkCall
    { functionName := "__".toList
      arguments := [⟨.literal "a".toList, ⟨3, 6, by decide⟩, [], none⟩,
        ⟨.literal defaultDomain, ⟨6, 15, by decide⟩, [], none⟩]
      span := ⟨0, 16, by decide⟩
      location := none
      inOrder := by decide } { allowDefault := true } = .error (.nothingPrecedes 6 15) := rfl

end TextDomain
