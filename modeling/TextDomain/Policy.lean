import TextDomain.Text.Quoted

/-!
# Policies

A policy says which text domains are allowed and whether a call may leave its
domain out. Allowed domains keep the order in which they were configured and
are pairwise different.

## Main results

* `build_eq_ok_iff` — a policy is refused exactly when a domain is listed twice.
* `onlyAllowed?_eq_some_iff`, `onlyAllowed?_eq_none_iff` — when there is an only
  allowed domain.
-/

namespace TextDomain

/-- What is wrong with a configuration. -/
inductive PolicyError where
  /-- A domain is allowed twice. -/
  | duplicateDomains
  /-- The options are something other than a mapping. -/
  | optionsNotMapping (typeName : Text)
  /-- Some options have names that mean nothing. -/
  | unknownOptions (names : List Text)
  /-- `allowDefault` is something other than a truth value. -/
  | allowDefaultNotBoolean
  /-- `allowedTextDomains` is something other than a list of texts. -/
  | domainsNotTexts
deriving DecidableEq

/-- The wording of an error. -/
def PolicyError.message : PolicyError → Text
  | .duplicateDomains => "allowedTextDomains must not contain duplicate entries".toList
  | .optionsNotMapping typeName => "rule options must be a mapping, got ".toList ++ typeName
  | .unknownOptions names =>
    "unknown rule option(s) ".toList ++ Text.bracketed '[' ']' (names.map Text.quoted)
  | .allowDefaultNotBoolean => "allowDefault must be a boolean".toList
  | .domainsNotTexts => "allowedTextDomains must be a list of strings".toList

/-- A policy on text domains. -/
structure Policy where
  /-- Whether calls may leave the domain out. -/
  allowDefault : Bool := false
  /-- The allowed domains. -/
  allowed : List Text := []
  /-- No domain is listed twice. -/
  distinct : allowed.Nodup := by decide
deriving DecidableEq

namespace Policy

/-- Checks a policy. -/
def build (allowDefault : Bool) (allowed : List Text) : Except PolicyError Policy :=
  if h : allowed.Nodup then .ok ⟨allowDefault, allowed, h⟩ else .error .duplicateDomains

/-- A policy is refused exactly when a domain is listed twice. -/
theorem build_eq_ok_iff {allowDefault : Bool} {allowed : List Text} {p : Policy} :
    build allowDefault allowed = .ok p ↔
      allowed.Nodup ∧ p.allowDefault = allowDefault ∧ p.allowed = allowed := by
  unfold build
  split
  next h =>
    cases p
    simp only [Except.ok.injEq, Policy.mk.injEq]
    exact ⟨fun ⟨a, b⟩ => ⟨h, a.symm, b.symm⟩, fun ⟨_, a, b⟩ => ⟨a.symm, b.symm⟩⟩
  next h => simp [h]

/-- The only allowed domain, if exactly one is allowed. -/
def onlyAllowed? (p : Policy) : Option Text :=
  match p.allowed with
  | [d] => some d
  | _ => none

/-- There is an only allowed domain exactly if one is allowed and no other. -/
theorem onlyAllowed?_eq_some_iff {p : Policy} {d : Text} :
    p.onlyAllowed? = some d ↔ p.allowed = [d] := by
  unfold onlyAllowed?
  split
  next d' h => simp [h]
  next h =>
    simp only [reduceCtorEq, false_iff]
    exact h d

/-- There is no only allowed domain exactly if the number of allowed domains is
other than one. -/
theorem onlyAllowed?_eq_none_iff {p : Policy} : p.onlyAllowed? = none ↔ p.allowed.length ≠ 1 := by
  rw [Option.eq_none_iff_forall_ne_some]
  simp only [ne_eq, onlyAllowed?_eq_some_iff, List.length_eq_one_iff, not_exists]

/-- Whether the policy allows a domain. -/
def allows (p : Policy) (domain : Text) : Bool := p.allowed.contains domain

theorem allows_iff {p : Policy} {domain : Text} :
    p.allows domain = true ↔ domain ∈ p.allowed := by
  rw [allows, List.contains_eq_mem, decide_eq_true_eq]

end Policy

end TextDomain
