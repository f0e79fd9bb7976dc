import TextDomain.Proofs.Rule.Edit

/-!
# Which fix is attached to a call

A fix is attached in three situations, and each leaves its own trace in the
call: the last argument is where an insertion goes, the argument in the domain
slot is what a replacement or a removal is about. `AttachedFix` lists the
situations; whatever is said about the fixes of calls is a case analysis over
it and never opens the rule again.

## Main results

* `Call.evaluation` — what of evaluation depends on the policy.
* `evaluate_eq_some` — what evaluation finds out about a call.
* `attachedFix_of_checkCall` — a fix of a diagnostic is attached in one of the
  three situations.
-/

namespace TextDomain

/-- Whether a call is one of a gettext function. -/
def Call.IsGettext (c : Call) : Prop := (GettextFunction.ofName? c.functionName).isSome

instance (c : Call) : Decidable c.IsGettext := inferInstanceAs (Decidable (_ = true))

/-- The domain is never the first argument of a gettext function. -/
theorem GettextFunction.one_le_domainIndex {name : Option Text} {f : GettextFunction}
    (h : ofName? name = some f) : 1 ≤ f.domainIndex.toNat := by
  have hmem := (ofName?_eq_some_iff.1 h).1
  simp only [table, List.mem_cons, List.not_mem_nil, or_false] at hmem
  rcases hmem with rfl | rfl | rfl | rfl <;> decide

theorem GettextFunction.arityStatus_eq_some_iff {f : GettextFunction} {count : Int}
    {status : Status} :
    f.arityStatus count = some status ↔ status = .missing ∧ count < f.requiredCount := by
  by_cases h : count < f.requiredCount
  · simp [arityStatus, lacksArguments, h, eq_comm]
  · simp [arityStatus, lacksArguments, h]

/-! ## Evaluation -/

/-- What evaluation finds out about a call before it looks at the policy. -/
inductive Call.Evaluation (c : Call) : Prop where
  /-- The callee is no gettext function. -/
  | foreign (callee : GettextFunction.ofName? c.functionName = none)
      (eq : ∀ policy, evaluate c policy = none)
  /-- Required arguments are left out. -/
  | short {f : GettextFunction} (callee : GettextFunction.ofName? c.functionName = some f)
      (lacking : (c.arguments.length : Int) < f.requiredCount)
      (eq : ∀ policy, evaluate c policy = some { status := .missing, function := f })
  /-- What stands in the domain slot is no literal. -/
  | other {f : GettextFunction} {arg : Argument} {value : Datum}
      (callee : GettextFunction.ofName? c.functionName = some f)
      (slot : c.arguments[f.domainIndex.toNat]? = some arg) (content : arg.content = .other value)
      (eq : ∀ policy, evaluate c policy =
        some ⟨.invalidType, f, some (.ofArgument c.arguments arg)⟩)
  /-- A literal stands in the domain slot, and the policy decides by its value. -/
  | literal {f : GettextFunction} {arg : Argument} {value : Text}
      (callee : GettextFunction.ofName? c.functionName = some f)
      (slot : c.arguments[f.domainIndex.toNat]? = some arg)
      (content : arg.content = .literal value)
      (eq : ∀ policy, evaluate c policy =
        some ⟨if policy.allows value then .valid else .invalidDomain, f,
          some (.ofArgument c.arguments arg)⟩)

/-- A call with all required arguments has one in the domain slot. -/
theorem GettextFunction.exists_slot {c : Call} {f : GettextFunction}
    (hf : ofName? c.functionName = some f)
    (henough : f.arityStatus c.arguments.length = none) :
    ∃ arg, c.arguments[f.domainIndex.toNat]? = some arg := by
  have hlast := f.domain_last
  have hone := one_le_domainIndex hf
  have hcount : ¬ (c.arguments.length : Int) < f.requiredCount := by
    intro hlt
    have hmissing : f.arityStatus c.arguments.length = some .missing :=
      arityStatus_eq_some_iff.2 ⟨rfl, hlt⟩
    rw [henough] at hmissing
    cases hmissing
  exact ⟨_, List.getElem?_eq_getElem (by omega)⟩

/-- With an argument in the domain slot, a call has all required arguments. -/
theorem GettextFunction.arityStatus_eq_none {c : Call} {f : GettextFunction} {arg : Argument}
    (slot : c.arguments[f.domainIndex.toNat]? = some arg) :
    f.arityStatus c.arguments.length = none := by
  have hlast := f.domain_last
  have hlt := (List.getElem?_eq_some_iff.1 slot).1
  have henough : ¬ (c.arguments.length : Int) < f.requiredCount := by omega
  simp only [arityStatus, lacksArguments, henough, decide_false, Bool.false_eq_true, if_false]

section Cases

variable {c : Call} {policy : Policy} {f : GettextFunction} {arg : Argument}

theorem evaluate_of_foreign (callee : GettextFunction.ofName? c.functionName = none) :
    evaluate c policy = none := by
  simp only [evaluate, callee]

theorem evaluate_of_short (callee : GettextFunction.ofName? c.functionName = some f)
    (short : (c.arguments.length : Int) < f.requiredCount) :
    evaluate c policy = some { status := .missing, function := f } := by
  have hstatus : f.arityStatus c.arguments.length = some .missing :=
    GettextFunction.arityStatus_eq_some_iff.2 ⟨rfl, short⟩
  simp only [evaluate, callee, hstatus]

theorem evaluate_of_other {value : Datum}
    (callee : GettextFunction.ofName? c.functionName = some f)
    (slot : c.arguments[f.domainIndex.toNat]? = some arg) (content : arg.content = .other value) :
    evaluate c policy = some ⟨.invalidType, f, some (.ofArgument c.arguments arg)⟩ := by
  have hliteral : (Domain.ofArgument c.arguments arg).isLiteral = false := by
    simp only [Domain.ofArgument, Argument.isLiteral, content]
  simp only [evaluate, callee, GettextFunction.arityStatus_eq_none slot, Call.domainAt?, slot,
    Option.map_some, hliteral, Bool.false_eq_true, if_false]

theorem evaluate_of_literal {value : Text}
    (callee : GettextFunction.ofName? c.functionName = some f)
    (slot : c.arguments[f.domainIndex.toNat]? = some arg) (content : arg.content = .literal value) :
    evaluate c policy =
      some ⟨if policy.allows value then .valid else .invalidDomain, f,
        some (.ofArgument c.arguments arg)⟩ := by
  have hliteral : (Domain.ofArgument c.arguments arg).isLiteral = true := by
    simp only [Domain.ofArgument, Argument.isLiteral, content]
  have hvalue : (Domain.ofArgument c.arguments arg).value = .text value := by
    simp only [Domain.ofArgument, Argument.literal?, content]
  simp only [evaluate, callee, GettextFunction.arityStatus_eq_none slot, Call.domainAt?, slot,
    Option.map_some, hliteral, if_true, hvalue, Policy.statusOf]

end Cases

theorem Call.evaluation (c : Call) : c.Evaluation := by
  cases hf : GettextFunction.ofName? c.functionName with
  | none => exact .foreign hf fun _ => evaluate_of_foreign hf
  | some f =>
    cases hstatus : f.arityStatus c.arguments.length with
    | some status =>
      obtain ⟨rfl, hlacking⟩ := GettextFunction.arityStatus_eq_some_iff.1 hstatus
      exact .short hf hlacking fun _ => evaluate_of_short hf hlacking
    | none =>
      obtain ⟨arg, hslot⟩ := GettextFunction.exists_slot hf hstatus
      cases hcontent : arg.content with
      | other value => exact .other hf hslot hcontent fun _ => evaluate_of_other hf hslot hcontent
      | literal value =>
        exact .literal hf hslot hcontent fun _ => evaluate_of_literal hf hslot hcontent

/-- The status of a call with enough arguments and a literal domain is that of
the domain's value. -/
theorem evaluate_eq_some {call : Call} {policy : Policy} {o : Outcome}
    (h : evaluate call policy = some o) :
    GettextFunction.ofName? call.functionName = some o.function ∧
      ((o.status = .missing ∧ (call.arguments.length : Int) < o.function.requiredCount) ∨
        o.status = .invalidType ∨
        ∃ arg value, call.arguments[o.function.domainIndex.toNat]? = some arg ∧
          arg.content = .literal value ∧
          o.domain = some (.ofArgument call.arguments arg) ∧
          o.status = if policy.allows value then .valid else .invalidDomain) := by
  cases call.evaluation with
  | foreign callee eq =>
    rw [eq] at h
    cases h
  | short callee lacking eq =>
    rw [eq] at h
    obtain rfl := Option.some.inj h
    exact ⟨callee, .inl ⟨rfl, lacking⟩⟩
  | other callee slot content eq =>
    rw [eq] at h
    obtain rfl := Option.some.inj h
    exact ⟨callee, .inr (.inl rfl)⟩
  | literal callee slot content eq =>
    rw [eq] at h
    obtain rfl := Option.some.inj h
    exact ⟨callee, .inr (.inr ⟨_, _, slot, content, rfl, rfl⟩)⟩

/-! ## Checking -/

section Cases

variable {c : Call} {policy : Policy} {f : GettextFunction} {arg : Argument}

theorem checkCall_of_foreign (callee : GettextFunction.ofName? c.functionName = none) :
    checkCall c policy = .ok none := by
  simp only [checkCall, evaluate_of_foreign callee]

/-- Without all required arguments, checking a call comes to nothing or to an insertion. -/
theorem checkCall_of_short (callee : GettextFunction.ofName? c.functionName = some f)
    (short : (c.arguments.length : Int) < f.requiredCount) :
    checkCall c policy =
      if policy.allowDefault = true then .ok none
      else .ok (some (diagnose c .missing [] (insertionFix c policy))) := by
  simp only [checkCall, evaluate_of_short callee short, report]

theorem checkCall_of_other {value : Datum}
    (callee : GettextFunction.ofName? c.functionName = some f)
    (slot : c.arguments[f.domainIndex.toNat]? = some arg) (content : arg.content = .other value) :
    checkCall c policy = .ok (some (diagnose c .invalidType [] none)) := by
  simp only [checkCall, evaluate_of_other callee slot content, report]

/-- With a literal domain, checking a call comes to nothing, to a removal, or to a
replacement. -/
theorem checkCall_of_literal {value : Text}
    (callee : GettextFunction.ofName? c.functionName = some f)
    (slot : c.arguments[f.domainIndex.toNat]? = some arg) (content : arg.content = .literal value) :
    checkCall c policy =
      if policy.allows value = true then .ok none
      else if value = defaultDomain ∧ policy.allowDefault = true then
        (fun fix => some (diagnose c .unnecessaryDefault [] (some fix))) <$>
          removalFix (.ofArgument c.arguments arg)
      else
        (fun fix? => some (diagnose c .invalidValue [("textDomain".toList, .text value)] fix?)) <$>
          replacementFix (.ofArgument c.arguments arg) policy := by
  have hvalue : (Domain.ofArgument c.arguments arg).value = .text value := by
    simp only [Domain.ofArgument, Argument.literal?, content]
  simp only [checkCall, evaluate_of_literal callee slot content]
  by_cases hallowed : policy.allows value = true
  · simp only [if_pos hallowed, report]
  · simp only [if_neg hallowed, report, hvalue, isDefaultDomain, Bool.and_eq_true, beq_iff_eq]
    split <;> rfl

end Cases

/-! ## The three situations -/

/-- `AttachedFix policy call fix`: the rule attaches the fix to the call. -/
inductive AttachedFix (policy : Policy) (call : Call) : Fix → Prop where
  /-- Arguments are missing, and the only allowed domain follows the last one. -/
  | insertion {f : GettextFunction} {last : Argument} {domain : Text}
      (gettext : GettextFunction.ofName? call.functionName = some f)
      (short : (call.arguments.length : Int) < f.requiredCount)
      (required : policy.allowDefault = false)
      (only : policy.onlyAllowed? = some domain)
      (anchor : call.arguments.getLast? = some last)
      (room : last.span.stop < call.span.stop) :
      AttachedFix policy call
        ⟨.insert, .empty last.span.stop, ", '".toList ++ domain ++ ['\'']⟩
  /-- The domain is not allowed, and the only allowed one takes its place. -/
  | replacement {f : GettextFunction} {arg : Argument} {value : Text} {fix : Fix}
      (gettext : GettextFunction.ofName? call.functionName = some f)
      (slot : call.arguments[f.domainIndex.toNat]? = some arg)
      (literal : arg.content = .literal value)
      (refused : policy.allows value = false)
      (made : replacementFix (.ofArgument call.arguments arg) policy = .ok (some fix)) :
      AttachedFix policy call fix
  /-- The domain is the default one, which may be left out. -/
  | removal {f : GettextFunction} {arg : Argument} {fix : Fix}
      (gettext : GettextFunction.ofName? call.functionName = some f)
      (slot : call.arguments[f.domainIndex.toNat]? = some arg)
      (literal : arg.content = .literal defaultDomain)
      (permitted : policy.allowDefault = true)
      (made : removalFix (.ofArgument call.arguments arg) = .ok fix) :
      AttachedFix policy call fix

theorem AttachedFix.isGettext {policy : Policy} {call : Call} {fix : Fix}
    (h : AttachedFix policy call fix) : call.IsGettext := by
  cases h with
  | insertion gettext => exact Option.isSome_of_eq_some gettext
  | replacement gettext => exact Option.isSome_of_eq_some gettext
  | removal gettext => exact Option.isSome_of_eq_some gettext

/-! ## From diagnostics to situations -/

/-- A fix of a diagnostic is attached to its call in one of the three
situations. -/
theorem attachedFix_of_checkCall {call : Call} {policy : Policy} {d : Diagnostic} {fix : Fix}
    (h : checkCall call policy = .ok (some d)) (hfix : d.fix = some fix) :
    AttachedFix policy call fix := by
  cases call.evaluation with
  | foreign callee =>
    rw [checkCall_of_foreign callee] at h
    cases h
  | short callee short =>
    rw [checkCall_of_short callee short] at h
    split at h
    next => cases h
    next required =>
      obtain rfl := Option.some.inj (Except.ok.inj h)
      cases insertionFix_eq_iff.1 hfix with
      | made only anchor room =>
        exact .insertion callee short (Bool.eq_false_iff.2 required)
          (Policy.onlyAllowed?_eq_some_iff.2 only) anchor room
  | other callee slot content =>
    rw [checkCall_of_other callee slot content] at h
    obtain rfl := Option.some.inj (Except.ok.inj h)
    cases hfix
  | literal callee slot content =>
    rw [checkCall_of_literal callee slot content] at h
    split at h
    next => cases h
    next refused =>
      split at h
      next hdefault =>
        obtain ⟨rfl, permitted⟩ := hdefault
        obtain ⟨made, hmade, h⟩ := map_eq_ok_iff.1 h
        obtain rfl := Option.some.inj h
        obtain rfl := Option.some.inj hfix
        exact .removal callee slot content permitted hmade
      next =>
        obtain ⟨made, hmade, h⟩ := map_eq_ok_iff.1 h
        obtain rfl := Option.some.inj h
        obtain rfl : made = some fix := hfix
        exact .replacement callee slot content (Bool.eq_false_iff.2 refused) hmade

end TextDomain
