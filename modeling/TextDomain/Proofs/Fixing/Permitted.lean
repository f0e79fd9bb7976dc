import TextDomain.Proofs.Fixing.Completion
import TextDomain.Proofs.Fixing.Splice

/-!
# Which fixes a policy permits

A domain is inserted only where it may not be left out, and removed only where it
may. So one policy never makes fixes of both kinds, and no pass undoes what
another one did. Insertions and replacements put in the only allowed domain; if
there is no such domain, all that fixing can do is remove the default one, and if
that may not be left out either, fixing does nothing.

The policy stays the same through all passes, so what it permits is a property of
every fix of every text that is linted on the way. `Produced` collects these fixes;
it includes those of texts that are discarded in the end.

## Main results

* `AttachedFix.permits` — the rule attaches permitted fixes only.
* `Produced.permits` — hence they are all that passes produce.
* `Accepts.sublist` — without an only allowed domain, passes delete and nothing else.
* `fixSource_permitted` — what this means for fixing a source.
-/

namespace TextDomain

variable {policy : Policy} {file : Text}

/-! ## Permission -/

/-- What a policy permits a fix to do. -/
def Policy.Permits (policy : Policy) (f : Fix) : Prop :=
  match f.kind with
  | .insert => policy.allowDefault = false ∧ policy.onlyAllowed?.isSome = true
  | .replace => policy.onlyAllowed?.isSome = true
  | .delete => policy.allowDefault = true ∧ f.text = []

namespace Policy.Permits

variable {f : Fix}

/-- Where the domain is required, no fix deletes. -/
theorem kind_ne_delete (h : policy.Permits f) (hrequired : policy.allowDefault = false) :
    f.kind ≠ .delete := by
  intro hkind
  rw [Permits, hkind] at h
  rw [hrequired] at h
  exact Bool.false_ne_true h.1

/-- Where the domain may be left out, no fix inserts. -/
theorem kind_ne_insert (h : policy.Permits f) (hoptional : policy.allowDefault = true) :
    f.kind ≠ .insert := by
  intro hkind
  rw [Permits, hkind] at h
  rw [hoptional] at h
  exact Bool.true_eq_false_eq_False h.1

/-- Without an only allowed domain, all that is permitted is to delete the domain
where it may be left out. -/
theorem of_onlyAllowed?_eq_none (h : policy.Permits f) (hnone : policy.onlyAllowed? = none) :
    f.kind = .delete ∧ policy.allowDefault = true ∧ f.text = [] := by
  unfold Permits at h
  cases hkind : f.kind with
  | insert =>
    rw [hkind, hnone] at h
    cases h.2
  | replace =>
    rw [hkind, hnone] at h
    cases h
  | delete =>
    rw [hkind] at h
    exact ⟨rfl, h⟩

end Policy.Permits

/-! ## The fixes of the rule -/

/-- The rule attaches permitted fixes only. -/
theorem AttachedFix.permits {call : Call} {f : Fix} (h : AttachedFix policy call f) :
    policy.Permits f := by
  cases h with
  | insertion _ _ required only _ _ => exact ⟨required, Option.isSome_of_eq_some only⟩
  | replacement _ _ _ _ made =>
    cases replacementFix_eq_ok_iff.1 made with
    | between only => exact Option.isSome_of_eq_some (Policy.onlyAllowed?_eq_some_iff.2 only)
    | whole only => exact Option.isSome_of_eq_some (Policy.onlyAllowed?_eq_some_iff.2 only)
  | removal _ _ _ permitted made =>
    cases removalFix_eq_ok_iff.1 made with
    | made => exact ⟨permitted, rfl⟩

theorem permits_of_lint {text : Text} {ds : List Diagnostic} (h : lint text policy file = .ok ds)
    {f : Fix} (hf : f ∈ fixesOf ds) : policy.Permits f := by
  obtain ⟨_, _, _, _, _, hattached⟩ := exists_attachedFix_of_lint h hf
  exact hattached.permits

/-! ## All passes -/

/-- `Produced policy file text ds f`: the fix is one of a text with its diagnostics,
or of a text that some number of passes make of it. Whether the passes are accepted
is left open. -/
inductive Produced (policy : Policy) (file : Text) : Text → List Diagnostic → Fix → Prop where
  /-- A fix of the text itself. -/
  | now {text : Text} {ds : List Diagnostic} {f : Fix} (mem : f ∈ fixesOf ds) :
      Produced policy file text ds f
  /-- A fix that is produced from the result of a pass. -/
  | later {text fixed : Text} {ds remaining : List Diagnostic} {n : Nat} {f : Fix}
      (pass : Fix.applyAll text (fixesOf ds) = .ok (fixed, n))
      (linted : lint fixed policy file = .ok remaining)
      (rest : Produced policy file fixed remaining f) : Produced policy file text ds f

/-- The fixes of a text that accepted passes lead to are produced. -/
theorem Accepts.produced {text text' : Text} {ds ds' : List Diagnostic}
    (h : Accepts policy file text ds text' ds') {f : Fix} (hf : f ∈ fixesOf ds') :
    Produced policy file text ds f := by
  induction h with
  | refl => exact .now hf
  | step first _ ih =>
    obtain ⟨⟨n, hpass⟩, hlint, -⟩ := fixPass_accepted first
    exact .later hpass hlint (ih hf)

/-- All that passes produce is permitted. -/
theorem Produced.permits {text : Text} {ds : List Diagnostic} {f : Fix}
    (h : Produced policy file text ds f) (hlint : lint text policy file = .ok ds) :
    policy.Permits f := by
  induction h with
  | now mem => exact permits_of_lint hlint mem
  | later _ linted _ ih => exact ih linted

/-- Without an only allowed domain, one pass deletes and does nothing else. -/
theorem sublist_of_applyAll {text fixed : Text} {ds : List Diagnostic} {n : Nat}
    (hlint : lint text policy file = .ok ds) (hnone : policy.onlyAllowed? = none)
    (h : Fix.applyAll text (fixesOf ds) = .ok (fixed, n)) : fixed.Sublist text := by
  refine (Fix.edited_of_applyAll h).1.sublist ?_
  intro f hf
  have hmem : f ∈ fixesOf ds := mem_sortBy.1 ((Fix.select_sublist _).subset hf)
  exact ((permits_of_lint hlint hmem).of_onlyAllowed?_eq_none hnone).2.2

/-- Without an only allowed domain, passes delete and do nothing else. -/
theorem Accepts.sublist {text text' : Text} {ds ds' : List Diagnostic}
    (h : Accepts policy file text ds text' ds') (hlint : lint text policy file = .ok ds)
    (hnone : policy.onlyAllowed? = none) : text'.Sublist text := by
  induction h with
  | refl => exact .refl _
  | step first _ ih =>
    obtain ⟨⟨n, hpass⟩, hremaining, -⟩ := fixPass_accepted first
    exact (ih hremaining).trans (sublist_of_applyAll hlint hnone hpass)

/-- Without an only allowed domain, and where the domain may not be left out, there
are no fixes. -/
theorem fixesOf_eq_nil {text : Text} {ds : List Diagnostic} (h : lint text policy file = .ok ds)
    (hcount : policy.allowed.length ≠ 1) (hrequired : policy.allowDefault = false) :
    fixesOf ds = [] := by
  rw [List.eq_nil_iff_forall_not_mem]
  intro f hf
  have hpermits := permits_of_lint h hf
  have hdelete := hpermits.of_onlyAllowed?_eq_none (Policy.onlyAllowed?_eq_none_iff.2 hcount)
  exact hpermits.kind_ne_delete hrequired hdelete.1

/-- Without fixes, fixing ends where it begins. -/
theorem fixPasses_of_no_fixes {text : Text} {ds : List Diagnostic} (h : fixesOf ds = [])
    (passes : Nat) : fixPasses policy file passes text ds = .ok ⟨text, ds, []⟩ := by
  cases passes with
  | zero => rfl
  | succ passes => simp only [fixPasses, fixPass, h]

/-- Passes never produce both insertions and deletions: deletions take a policy that
lets the domain be left out, and insertions one that does not. If the number of
allowed domains is other than one, they produce deletions only, and what is left of
the source is part of it; if moreover the domain may not be left out, fixing is
linting. -/
theorem fixSource_permitted (text : Text) (policy : Policy) (file : Text) :
    (∀ ds, lint text policy file = .ok ds →
        (∀ text' ds', Accepts policy file text ds text' ds' → ∀ f ∈ fixesOf ds',
          Produced policy file text ds f) ∧
        ∀ f, Produced policy file text ds f →
          (policy.allowDefault = false → f.kind ≠ .delete) ∧
          (policy.allowDefault = true → f.kind ≠ .insert) ∧
          (policy.allowed.length ≠ 1 → f.kind = .delete)) ∧
      (policy.allowed.length ≠ 1 → ∀ r, fixSource text policy file = .ok r →
        r.text.Sublist text) ∧
      (policy.allowed.length ≠ 1 → policy.allowDefault = false →
        fixSource text policy file = (lint text policy file).map fun ds => ⟨text, ds, []⟩) := by
  refine ⟨?_, ?_, ?_⟩
  · intro ds hlint
    refine ⟨fun _ _ hrun f hf => hrun.produced hf, ?_⟩
    intro f hf
    have hpermits := hf.permits hlint
    refine ⟨hpermits.kind_ne_delete, hpermits.kind_ne_insert, ?_⟩
    intro hcount
    exact (hpermits.of_onlyAllowed?_eq_none (Policy.onlyAllowed?_eq_none_iff.2 hcount)).1
  · intro hcount r hr
    obtain ⟨ds, hlint, hrun⟩ := accepts_of_fixSource hr
    exact hrun.sublist hlint (Policy.onlyAllowed?_eq_none_iff.2 hcount)
  · intro hcount hrequired
    unfold fixSource
    cases hlint : lint text policy file with
    | error e => rfl
    | ok ds => exact fixPasses_of_no_fixes (fixesOf_eq_nil hlint hcount hrequired) maxPasses

/-- A removal under a policy without domains, and a call without a domain that stays
as it is. -/
theorem fixSource_permitted_removal :
    (∃ r, fixSource "__('a', 'default')".toList { allowDefault := true } [] = .ok r ∧
      r.text = "__('a')".toList ∧ r.text.Sublist "__('a', 'default')".toList) ∧
      (∃ ds f, lint "__('a', 'default')".toList { allowDefault := true } [] = .ok ds ∧
        f ∈ fixesOf ds ∧ f.kind = .delete ∧ f.kind ≠ .insert) ∧
      fixSource "__('a')".toList {} [] =
        (lint "__('a')".toList {} []).map fun ds => ⟨"__('a')".toList, ds, []⟩ := by
  have htext : (fixSource "__('a', 'default')".toList { allowDefault := true }
      []).toOption.map Fixed.text = some "__('a')".toList := by decide +kernel
  have hfixes : (lint "__('a', 'default')".toList { allowDefault := true } []).toOption.map fixesOf =
      some [⟨.delete, ⟨6, 17, by decide⟩, []⟩] := by decide +kernel
  obtain ⟨r, hr, htext⟩ := Option.map_eq_some_iff.1 htext
  obtain ⟨ds, hds, hfixes⟩ := Option.map_eq_some_iff.1 hfixes
  have hlint := eq_ok_of_toOption hds
  have hf : (⟨.delete, ⟨6, 17, by decide⟩, []⟩ : Fix) ∈ fixesOf ds := by
    rw [hfixes]
    exact List.mem_singleton_self _
  obtain ⟨hkinds, hpart, -⟩ :=
    fixSource_permitted "__('a', 'default')".toList { allowDefault := true } []
  obtain ⟨-, hinsert, hdelete⟩ := (hkinds ds hlint).2 _ (.now hf)
  have hfixed := eq_ok_of_toOption hr
  refine ⟨⟨r, hfixed, htext, hpart (by decide) r hfixed⟩,
    ⟨ds, _, hlint, hf, hdelete (by decide), hinsert rfl⟩, ?_⟩
  exact (fixSource_permitted "__('a')".toList {} []).2.2 (by decide) rfl

end TextDomain
