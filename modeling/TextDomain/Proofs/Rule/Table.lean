import TextDomain.Proofs.Rule.NoRoom

/-!
# The rule as a table

The rule is spread over a classifier, a count of arguments, a look into the domain slot,
a reporter and three makers of fixes. What comes of it is one table with seven rows.
`Call.Row` is that table: each row says which calls it is about, what their status is
and what is found on them. The fixes in it are those of `Call.Insertion`,
`Argument.Replacement` and `Argument.Removal`.

A call that can be checked is in a row, and what it is in a row for is what the rule
makes of it. So no two rows ever say different things about one call.

## Main results

* `Call.Row.checkCall`, `Call.Row.status` — a row says what the rule makes of a call.
* `exists_row_of_checkCall` — a call that can be checked is in a row.
* `checkCall_follows_table` — both ways to check a call come to what the table says.
-/

namespace TextDomain

/-! ## The table -/

/-- What is found on a call. -/
structure Finding where
  /-- The kind of report. -/
  id : MessageId
  /-- The values that go into the wording. -/
  data : List (Text × Datum) := []
  /-- The edit that comes with it. -/
  fix : Option Fix := none

/-- The finding as a diagnostic on the call. -/
def Finding.diagnostic (c : Call) (x : Finding) : Diagnostic := diagnose c x.id x.data x.fix

/-- `c.Row policy status? found`: a row of the table gives the call this status, and
this is found on it. -/
inductive Call.Row (policy : Policy) (c : Call) : Option Status → Option Finding → Prop where
  /-- The callee is none of the functions. -/
  | foreign (callee : ∀ f ∈ GettextFunction.table, c.functionName ≠ some f.name) :
      c.Row policy none none
  /-- Arguments are left out, as is permitted. -/
  | optional {f : GettextFunction}
      (callee : f ∈ GettextFunction.table ∧ c.functionName = some f.name)
      (short : (c.arguments.length : Int) < f.requiredCount)
      (permitted : policy.allowDefault = true) : c.Row policy (some .missing) none
  /-- Arguments are left out. -/
  | missing {f : GettextFunction} {fix? : Option Fix}
      (callee : f ∈ GettextFunction.table ∧ c.functionName = some f.name)
      (short : (c.arguments.length : Int) < f.requiredCount)
      (required : policy.allowDefault = false) (insertion : c.Insertion policy fix?) :
      c.Row policy (some .missing) (some { id := .missing, fix := fix? })
  /-- The domain is no literal. -/
  | other {f : GettextFunction} {arg : Argument} {value : Datum}
      (callee : f ∈ GettextFunction.table ∧ c.functionName = some f.name)
      (slot : c.arguments[f.domainIndex.toNat]? = some arg) (content : arg.content = .other value) :
      c.Row policy (some .invalidType) (some { id := .invalidType })
  /-- The domain is allowed. -/
  | valid {f : GettextFunction} {arg : Argument} {value : Text}
      (callee : f ∈ GettextFunction.table ∧ c.functionName = some f.name)
      (slot : c.arguments[f.domainIndex.toNat]? = some arg)
      (content : arg.content = .literal value) (allowed : value ∈ policy.allowed) :
      c.Row policy (some .valid) none
  /-- The domain is the default one, which may be left out. -/
  | unnecessary {f : GettextFunction} {arg : Argument} {made : Fix}
      (callee : f ∈ GettextFunction.table ∧ c.functionName = some f.name)
      (slot : c.arguments[f.domainIndex.toNat]? = some arg)
      (content : arg.content = .literal defaultDomain) (refused : defaultDomain ∉ policy.allowed)
      (permitted : policy.allowDefault = true) (removal : arg.Removal c.arguments made) :
      c.Row policy (some .invalidDomain) (some { id := .unnecessaryDefault, fix := some made })
  /-- The domain is another one that is not allowed. -/
  | invalid {f : GettextFunction} {arg : Argument} {value : Text} {fix? : Option Fix}
      (callee : f ∈ GettextFunction.table ∧ c.functionName = some f.name)
      (slot : c.arguments[f.domainIndex.toNat]? = some arg)
      (content : arg.content = .literal value) (refused : value ∉ policy.allowed)
      (required : ¬ (value = defaultDomain ∧ policy.allowDefault = true))
      (replacement : arg.Replacement policy fix?) :
      c.Row policy (some .invalidDomain)
        (some { id := .invalidValue, data := [("textDomain".toList, .text value)], fix := fix? })

variable {policy : Policy} {c : Call} {status? : Option Status} {found : Option Finding}

/-! ## Rows and the rule -/

/-- A row says what status a call has. -/
theorem Call.Row.status (h : c.Row policy status? found) :
    (evaluate c policy).map (·.status) = status? := by
  cases h with
  | foreign callee =>
    rw [evaluate_of_foreign (GettextFunction.ofName?_eq_none_iff.2 callee)]
    rfl
  | optional callee short | missing callee short =>
    rw [evaluate_of_short (GettextFunction.ofName?_eq_some_iff.2 callee) short]
    rfl
  | other callee slot content =>
    rw [evaluate_of_other (GettextFunction.ofName?_eq_some_iff.2 callee) slot content]
    rfl
  | valid callee slot content allowed =>
    rw [evaluate_of_literal (GettextFunction.ofName?_eq_some_iff.2 callee) slot content,
      if_pos (Policy.allows_iff.2 allowed)]
    rfl
  | unnecessary callee slot content refused | invalid callee slot content refused =>
    rw [evaluate_of_literal (GettextFunction.ofName?_eq_some_iff.2 callee) slot content,
      if_neg (mt Policy.allows_iff.1 refused)]
    rfl

/-- A row says what checking a call reports. -/
theorem Call.Row.checkCall (h : c.Row policy status? found) :
    checkCall c policy = .ok (found.map (Finding.diagnostic c)) := by
  cases h with
  | foreign callee => exact checkCall_of_foreign (GettextFunction.ofName?_eq_none_iff.2 callee)
  | optional callee short permitted =>
    rw [checkCall_of_short (GettextFunction.ofName?_eq_some_iff.2 callee) short,
      if_pos permitted]
    rfl
  | missing callee short required insertion =>
    rw [checkCall_of_short (GettextFunction.ofName?_eq_some_iff.2 callee) short,
      if_neg (Bool.eq_false_iff.1 required), insertionFix_eq_iff.2 insertion]
    rfl
  | other callee slot content =>
    exact checkCall_of_other (GettextFunction.ofName?_eq_some_iff.2 callee) slot content
  | valid callee slot content allowed =>
    rw [checkCall_of_literal (GettextFunction.ofName?_eq_some_iff.2 callee) slot content,
      if_pos (Policy.allows_iff.2 allowed)]
    rfl
  | unnecessary callee slot content refused permitted removal =>
    rw [checkCall_of_literal (GettextFunction.ofName?_eq_some_iff.2 callee) slot content,
      if_neg (mt Policy.allows_iff.1 refused), if_pos ⟨rfl, permitted⟩,
      removalFix_eq_ok_iff.2 removal]
    rfl
  | invalid callee slot content refused required replacement =>
    rw [checkCall_of_literal (GettextFunction.ofName?_eq_some_iff.2 callee) slot content,
      if_neg (mt Policy.allows_iff.1 refused), if_neg required,
      replacementFix_eq_ok_iff.2 replacement]
    rfl

/-- A call that can be checked is in a row. -/
theorem exists_row_of_checkCall {d? : Option Diagnostic} (h : checkCall c policy = .ok d?) :
    ∃ status? found, c.Row policy status? found := by
  cases c.evaluation with
  | foreign callee => exact ⟨_, _, .foreign (GettextFunction.ofName?_eq_none_iff.1 callee)⟩
  | short callee short =>
    have hknown := GettextFunction.ofName?_eq_some_iff.1 callee
    by_cases permitted : policy.allowDefault = true
    · exact ⟨_, _, .optional hknown short permitted⟩
    · exact ⟨_, _, .missing hknown short (Bool.eq_false_iff.2 permitted)
        (insertionFix_eq_iff.1 rfl)⟩
  | other callee slot content =>
    have hknown := GettextFunction.ofName?_eq_some_iff.1 callee
    exact ⟨_, _, .other hknown slot content⟩
  | @literal f arg value callee slot content =>
    have hknown := GettextFunction.ofName?_eq_some_iff.1 callee
    rw [checkCall_of_literal callee slot content] at h
    by_cases allowed : policy.allows value = true
    · exact ⟨_, _, .valid hknown slot content (Policy.allows_iff.1 allowed)⟩
    have refused := mt Policy.allows_iff.2 allowed
    rw [if_neg allowed] at h
    -- The call can be checked, so the fix of the last two rows is made.
    by_cases hdefault : value = defaultDomain ∧ policy.allowDefault = true
    · rw [if_pos hdefault] at h
      obtain ⟨made, hmade, -⟩ := map_eq_ok_iff.1 h
      obtain ⟨rfl, permitted⟩ := hdefault
      exact ⟨_, _, .unnecessary hknown slot content refused permitted
        (removalFix_eq_ok_iff.1 hmade)⟩
    · rw [if_neg hdefault] at h
      obtain ⟨fix?, hmade, -⟩ := map_eq_ok_iff.1 h
      exact ⟨_, _, .invalid hknown slot content refused hdefault
        (replacementFix_eq_ok_iff.1 hmade)⟩

/-- The table has no wording that is for hosts only. -/
theorem Call.Row.id_ne_useAllowedValue {x : Finding} (h : c.Row policy status? (some x)) :
    x.id ≠ .useAllowedValue := by
  cases h with
  | missing | other | unnecessary | invalid => exact nofun

/-- Only a callee that is none of the functions leaves a call without a status. -/
theorem Call.Row.status_eq_none_iff (h : c.Row policy status? found) :
    status? = none ↔ ∀ f ∈ GettextFunction.table, c.functionName ≠ some f.name := by
  cases h with
  | foreign callee => exact ⟨fun _ => callee, fun _ => rfl⟩
  | optional callee | missing callee | other callee | valid callee
  | unnecessary callee | invalid callee =>
    exact ⟨nofun, fun hforeign => absurd callee.2 (hforeign _ callee.1)⟩

theorem MessageId.ofName?_name (id : MessageId) : ofName? id.name = some id := by
  cases id <;> rfl

/-! ## Both ways to check a call -/

theorem checkCall_eq_ok_iff {d? : Option Diagnostic} :
    checkCall c policy = .ok d? ↔
      ∃ status? found, c.Row policy status? found ∧ d? = found.map (Finding.diagnostic c) := by
  constructor
  · intro h
    obtain ⟨status?, found, hrow⟩ := exists_row_of_checkCall h
    have hfound := hrow.checkCall
    rw [h] at hfound
    exact ⟨status?, found, hrow, Except.ok.inj hfound⟩
  · rintro ⟨status?, found, hrow, rfl⟩
    exact hrow.checkCall

/-- A row also says what the other way to check a call gives. -/
theorem Call.Row.validate (h : c.Row policy status? found) :
    validate c policy = .ok (status?, found.bind (·.fix)) := by
  rw [validate_eq, h.checkCall, h.status]
  show Except.ok (status?, (found.map (Finding.diagnostic c)).bind (·.fix)) = _
  rw [Option.bind_map]
  rfl

theorem validate_eq_ok_iff {fix? : Option Fix} :
    validate c policy = .ok (status?, fix?) ↔
      ∃ found, c.Row policy status? found ∧ fix? = found.bind (·.fix) := by
  constructor
  · intro h
    obtain ⟨d?, hcheck, -⟩ := map_eq_ok_iff.1 (validate_eq c policy ▸ h)
    obtain ⟨status', found, hrow⟩ := exists_row_of_checkCall hcheck
    have hfound := hrow.validate
    rw [h, Except.ok.injEq, Prod.mk.injEq] at hfound
    exact ⟨found, hfound.1 ▸ hrow, hfound.2⟩
  · rintro ⟨found, hrow, rfl⟩
    exact hrow.validate

/-- A call that can be checked comes to what its row of the table says, and both ways to
check it agree: the one reports a diagnostic, worded by the template of its kind, the
other gives the fix of the same diagnostic. A status is lacking exactly if the callee is
none of the functions. -/
theorem checkCall_follows_table (c : Call) (policy : Policy) :
    (∀ d?, checkCall c policy = .ok d? ↔
        ∃ status? found, c.Row policy status? found ∧ d? = found.map (Finding.diagnostic c)) ∧
      (∀ status? fix?, validate c policy = .ok (status?, fix?) ↔
        ∃ found, c.Row policy status? found ∧ fix? = found.bind (·.fix)) ∧
      (∀ d?, checkCall c policy = .ok d? →
        ∃ status?, validate c policy = .ok (status?, d?.bind (·.fix)) ∧
          (status? = none ↔ ∀ f ∈ GettextFunction.table, c.functionName ≠ some f.name)) ∧
      ∀ d, checkCall c policy = .ok (some d) →
        ∃ id, MessageId.ofName? d.messageId = some id ∧ id ≠ .useAllowedValue ∧
          d.message = id.render d.data := by
  refine ⟨fun d? => checkCall_eq_ok_iff, fun status? fix? => validate_eq_ok_iff, ?_, ?_⟩
  · intro d? h
    obtain ⟨status?, found, hrow, rfl⟩ := checkCall_eq_ok_iff.1 h
    refine ⟨status?, ?_, hrow.status_eq_none_iff⟩
    rw [hrow.validate, Option.bind_map]
    rfl
  · intro d h
    obtain ⟨status?, found, hrow, hfound⟩ := checkCall_eq_ok_iff.1 h
    cases found with
    | none => cases hfound
    | some x =>
      obtain rfl := Option.some.inj hfound
      exact ⟨x.id, x.id.ofName?_name, hrow.id_ne_useAllowedValue, rfl⟩

end TextDomain
