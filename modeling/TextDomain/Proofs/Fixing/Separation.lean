import TextDomain.Lint
import TextDomain.Proofs.Rule.Placement

/-!
# The fixes of one pass do not touch

The calls of a text are nested in each other, and the fix of an outer call is
made in the same pass as that of an inner one. Two fixes may be applied
together when a character lies between them, so the question is whether the fix
of a call ever touches that of a call inside it.

It does not, because both lie in gaps. The gap of the outer call holds no call:
an inner one is either over before the gap begins or begins behind it. The gap
of the inner call lies strictly inside that call, so there is always a
character between the two.

## Main results

* `Call.Gap.before_or_behind` — a call inside another avoids its gaps.
* `separated_of_within` — hence the fixes of the two calls are apart.
* `select_perm` — fixes that are all apart are all taken.
* `fixes_of_calls_apart` — all of this for the calls of a text.
-/

namespace TextDomain

/-! ## Calls of a text -/

namespace Span

/-- The first span lies inside the second. -/
def Within (a b : Span) : Prop := b.start ≤ a.start ∧ a.stop ≤ b.stop

/-- One of the spans ends at or before the beginning of the other. -/
def Disjoint (a b : Span) : Prop := a.stop ≤ b.start ∨ b.stop ≤ a.start

instance (a b : Span) : Decidable (a.Within b) := inferInstanceAs (Decidable (_ ∧ _))

instance (a b : Span) : Decidable (a.Disjoint b) := inferInstanceAs (Decidable (_ ∨ _))

end Span

/-- How a call lies inside another one: in an argument that is no string
literal, or outside of all arguments, but not between an argument and a string
literal that follows it. -/
structure Call.Surrounds (c inner : Call) : Prop where
  in_one_or_outside_all : (∃ a ∈ c.arguments, inner.span.Within a.span) ∨
    ∀ a ∈ c.arguments, inner.span.Disjoint a.span
  not_in_literal : ∀ a ∈ c.arguments, a.isLiteral = true → ¬ inner.span.Within a.span
  not_before_literal : ∀ p ∈ c.arguments.zip c.arguments.tail, p.2.isLiteral = true →
    ¬ (p.1.span.stop ≤ inner.span.start ∧ inner.span.stop ≤ p.2.span.start)

/-- The calls of a text: their ranges are different, and nested or disjoint;
those of gettext functions are well-placed and surround the calls inside
them. -/
structure CallsOf (text : Text) (calls : List Call) : Prop where
  inside : ∀ c ∈ calls, c.span.stop ≤ text.length
  distinct : calls.Pairwise fun c c' => c.span ≠ c'.span
  nested_or_disjoint : calls.Pairwise fun c c' =>
    c.span.Within c'.span ∨ c'.span.Within c.span ∨ c.span.Disjoint c'.span
  wellPlaced : ∀ c ∈ calls, c.IsGettext → c.WellPlaced text
  surrounds : ∀ c ∈ calls, c.IsGettext → ∀ inner ∈ calls,
    inner.span.Within c.span → inner.span ≠ c.span → c.Surrounds inner

/-! ## Calls and gaps -/

private theorem mem_zip_tail {α : Type} (before after : List α) (a b : α) :
    (a, b) ∈ (before ++ a :: b :: after).zip (before ++ a :: b :: after).tail := by
  induction before with
  | nil => exact List.mem_cons_self ..
  | cons x before ih =>
    cases before with
    | nil => exact List.mem_cons_of_mem _ (List.mem_cons_self ..)
    | cons y before => exact List.mem_cons_of_mem _ ih

/-- A call inside another one is over before a gap of that call begins, or
begins behind it. -/
theorem Call.Gap.before_or_behind {text : Text} {c inner : Call} {lo hi : Nat}
    (hgap : c.Gap lo hi) (h : c.WellPlaced text) (hinner : c.Surrounds inner) :
    inner.span.stop ≤ lo ∨ hi ≤ inner.span.start := by
  have hproper := inner.span.start_le_stop
  cases hgap with
  | @behind_last last anchor room =>
    obtain ⟨init, heq⟩ := List.getLast?_eq_some_iff.1 anchor
    have hlast : last ∈ c.arguments := List.mem_of_getLast? anchor
    have hlast' := last.span.start_le_stop
    rcases hinner.in_one_or_outside_all with ⟨a, ha, hwithin⟩ | houtside
    · -- The argument is the last one or lies before it.
      have hle : a.span.stop ≤ last.span.stop := by
        have hapart := h.apart
        rw [heq] at ha hapart
        rcases List.mem_append.1 ha with ha | ha
        · have := (List.pairwise_append.1 hapart).2.2 a ha last (List.mem_singleton_self last)
          omega
        · obtain rfl := List.mem_singleton.1 ha
          exact Nat.le_refl _
      exact .inl (Nat.le_trans hwithin.2 hle)
    · rcases houtside last hlast with hbefore | hbehind
      · exact .inl (by omega)
      · exact .inr hbehind
  | @around_literal before after previous arg split literal =>
    have harg : arg ∈ c.arguments := by rw [split]; simp
    have hprevious : previous ∈ c.arguments := by rw [split]; simp
    have hpair : (previous, arg) ∈ c.arguments.zip c.arguments.tail := by
      rw [split]
      exact mem_zip_tail before after previous arg
    have hapart := h.apart
    rw [split] at hapart
    obtain ⟨-, hrest, hcross⟩ := List.pairwise_append.1 hapart
    obtain ⟨hbehind, hrest⟩ := List.pairwise_cons.1 hrest
    have hgap := hbehind arg (List.mem_cons_self ..)
    have := previous.span.start_le_stop
    have := arg.span.start_le_stop
    rcases hinner.in_one_or_outside_all with ⟨a, ha, hwithin⟩ | houtside
    · have hmem : a ∈ before ++ previous :: arg :: after := by rw [← split]; exact ha
      rcases List.mem_append.1 hmem with hmem | hmem
      · have hlt := hcross a hmem previous (List.mem_cons_self ..)
        have := hwithin.2
        exact .inl (by omega)
      · rcases List.mem_cons.1 hmem with rfl | hmem
        · exact .inl hwithin.2
        · rcases List.mem_cons.1 hmem with rfl | hmem
          · exact absurd hwithin (hinner.not_in_literal a ha literal)
          · have hlt := (List.pairwise_cons.1 hrest).1 a hmem
            have := hwithin.1
            exact .inr (by omega)
    · rcases houtside arg harg with hbefore | hafter
      · rcases houtside previous hprevious with hbefore' | hafter'
        · exact .inl (by omega)
        · exact absurd ⟨hafter', hbefore⟩ (hinner.not_before_literal _ hpair literal)
      · exact .inr hafter

/-! ## Fixes that are apart -/

/-- There is a character between the fixes. -/
def Fix.Apart (a b : Fix) : Prop := a.Separated b ∨ b.Separated a

theorem Fix.Apart.symm {a b : Fix} (h : a.Apart b) : b.Apart a := Or.symm h

variable {policy : Policy} {text : Text} {c c' : Call} {fix fix' : Fix}

/-- The fix of a call lies strictly inside the call. -/
theorem AttachedFix.strictly_within (hfix : AttachedFix policy c fix) (h : c.WellPlaced text) :
    c.span.start < fix.span.start ∧ fix.span.stop < c.span.stop := by
  obtain ⟨lo, hi, hgap, hlo, hhi⟩ := hfix.exists_gap h
  obtain ⟨hstart, -, hstop⟩ := hgap.within h
  exact ⟨by omega, by omega⟩

/-- The fix of a call and that of a call inside it are apart. -/
theorem separated_of_within (hfix : AttachedFix policy c fix) (hfix' : AttachedFix policy c' fix')
    (h : c.WellPlaced text) (h' : c'.WellPlaced text) (hinner : c.Surrounds c') :
    fix.Apart fix' := by
  obtain ⟨lo, hi, hgap, hlo, hhi⟩ := hfix.exists_gap h
  obtain ⟨hstart, hstop⟩ := hfix'.strictly_within h'
  rcases hgap.before_or_behind h hinner with hbefore | hbehind
  · have hsep : fix'.span.stop < fix.span.start := by omega
    exact .inr hsep
  · have hsep : fix.span.stop < fix'.span.start := by omega
    exact .inl hsep

theorem separated_of_disjoint (hfix : AttachedFix policy c fix)
    (hfix' : AttachedFix policy c' fix') (h : c.WellPlaced text) (h' : c'.WellPlaced text)
    (hdisjoint : c.span.Disjoint c'.span) : fix.Apart fix' := by
  obtain ⟨hstart, hstop⟩ := hfix.strictly_within h
  obtain ⟨hstart', hstop'⟩ := hfix'.strictly_within h'
  rcases hdisjoint with hbefore | hbehind
  · have hsep : fix.span.stop < fix'.span.start := by omega
    exact .inl hsep
  · have hsep : fix'.span.stop < fix.span.start := by omega
    exact .inr hsep

/-! ## Taking all fixes -/

namespace Fix

theorem pairwise_inSpanOrder (fixes : List Fix) :
    (inSpanOrder fixes).Pairwise fun a b => a.span.le b.span = true := by
  apply pairwise_sortBy
  · intro a b
    simp only [Span.le, decide_eq_true_eq]
    omega
  · intro a b c hab hbc
    simp only [Span.le, decide_eq_true_eq] at hab hbc ⊢
    omega

/-- Fixes that are apart and in the order of their spans are all taken. -/
theorem selectAfter_eq_self {fixes : List Fix} (last : Option Nat)
    (hfirst : ∀ stop, last = some stop → ∀ f ∈ fixes, stop < f.span.start)
    (h : fixes.Pairwise Separated) : selectAfter last fixes = fixes := by
  induction fixes generalizing last with
  | nil => simp only [selectAfter]
  | cons f rest ih =>
    obtain ⟨hf, hrest⟩ := List.pairwise_cons.1 h
    have htail : selectAfter (some f.span.stop) rest = rest := by
      apply ih _ _ hrest
      rintro stop heq g hg
      obtain rfl := Option.some.inj heq
      exact hf g hg
    cases last with
    | none => rw [selectAfter, htail]
    | some stop =>
      rw [selectAfter, if_pos (hfirst stop rfl f (List.mem_cons_self ..)), htail]

/-- Fixes that are pairwise apart are all taken. -/
theorem select_perm {fixes : List Fix} (h : fixes.Pairwise Apart) :
    (select fixes).Perm fixes := by
  have hperm : (inSpanOrder fixes).Perm fixes := sortBy_perm _ _
  have hapart : (inSpanOrder fixes).Pairwise Apart :=
    (hperm.pairwise_iff fun hab => hab.symm).2 h
  have hseparated : (inSpanOrder fixes).Pairwise Separated := by
    refine ((pairwise_inSpanOrder fixes).and hapart).imp ?_
    rintro a b ⟨hle, hab | hba⟩
    · exact hab
    · -- The second cannot lie before the first, since it does not begin before it.
      simp only [Span.le, decide_eq_true_eq] at hle
      simp only [Separated] at hba
      have := a.span.start_le_stop
      have := b.span.start_le_stop
      omega
  rw [select, selectAfter_eq_self none (fun _ heq => by cases heq) hseparated]
  exact hperm

/-- Fixes that are pairwise apart and inside the text are applied in one
pass. -/
theorem applyAll_of_apart {text : Text} {fixes : List Fix} (h : fixes.Pairwise Apart)
    (hinside : ∀ f ∈ fixes, f.span.stop ≤ text.length) :
    ∃ fixed, applyAll text fixes = .ok (fixed, fixes.length) := by
  have hperm := select_perm h
  have hnone : (select fixes).find? (fun f => decide (text.length < f.span.stop)) = none := by
    rw [List.find?_eq_none]
    intro f hf
    have := hinside f (hperm.mem_iff.1 hf)
    simp only [decide_eq_true_eq]
    omega
  refine ⟨splice 0 text (select fixes), ?_⟩
  simp only [applyAll, hnone, hperm.length_eq]

end Fix

/-! ## All calls of a text -/

/-- If checking fails for none of the calls, their diagnostics are collected
in order. -/
theorem checkCalls_eq_ok {calls : List Call} {found : Call → Option Diagnostic}
    (h : ∀ c ∈ calls, checkCall c policy = .ok (found c)) :
    checkCalls policy calls = .ok (calls.filterMap found) := by
  induction calls with
  | nil => rfl
  | cons c rest ih =>
    have hc := h c (List.mem_cons_self ..)
    have hrest := ih fun c' hc' => h c' (List.mem_cons_of_mem c hc')
    rw [checkCalls, hc, hrest]
    cases hfound : found c with
    | none =>
      rw [List.filterMap_cons_none hfound]
      rfl
    | some d =>
      rw [List.filterMap_cons_some hfound]
      rfl

theorem CallsOf.apart {calls : List Call} (h : CallsOf text calls) {found : Call → Option Fix}
    (hfound : ∀ c ∈ calls, ∀ fix, found c = some fix → AttachedFix policy c fix) :
    (calls.filterMap found).Pairwise Fix.Apart := by
  have hpairs := List.Pairwise.and_mem.1 (h.distinct.and h.nested_or_disjoint)
  rw [List.pairwise_filterMap]
  refine hpairs.imp ?_
  rintro c c' ⟨hc, hc', hdistinct, hplace⟩ fix hfix fix' hfix'
  have hattached := hfound c hc fix hfix
  have hattached' := hfound c' hc' fix' hfix'
  have hgettext := hattached.isGettext
  have hgettext' := hattached'.isGettext
  have hplaced := h.wellPlaced c hc hgettext
  have hplaced' := h.wellPlaced c' hc' hgettext'
  rcases hplace with hwithin | hwithin | hdisjoint
  · have hsurrounds := h.surrounds c' hc' hgettext' c hc hwithin hdistinct
    exact (separated_of_within hattached' hattached hplaced' hplaced hsurrounds).symm
  · have hsurrounds := h.surrounds c hc hgettext c' hc' hwithin hdistinct.symm
    exact separated_of_within hattached hattached' hplaced hplaced' hsurrounds
  · exact separated_of_disjoint hattached hattached' hplaced hplaced' hdisjoint

/-- Checking the calls of a text does not fail, the fixes it gives are pairwise
apart, and one pass applies them all. -/
theorem fixes_of_calls_apart {calls : List Call} (h : CallsOf text calls) (policy : Policy) :
    ∃ ds, checkCalls policy calls = .ok ds ∧ (fixesOf ds).Pairwise Fix.Apart ∧
      (Fix.select (fixesOf ds)).Perm (fixesOf ds) ∧
      ∃ fixed, Fix.applyAll text (fixesOf ds) = .ok (fixed, (fixesOf ds).length) := by
  have hok : ∀ c : Call, c ∈ calls → ∃ d?, checkCall c policy = .ok d? := fun c hc =>
    Call.WellPlaced.checkCall_ok (h.wellPlaced c hc) policy
  let found : Call → Option Diagnostic := fun c => (checkCall c policy).toOption.join
  have hfound : ∀ c ∈ calls, checkCall c policy = .ok (found c) := by
    intro c hc
    obtain ⟨d?, hd⟩ := hok c hc
    simp only [found, hd]
    cases d? <;> rfl
  have hattached : ∀ c ∈ calls, ∀ fix, (found c).bind (·.fix) = some fix →
      AttachedFix policy c fix := by
    intro c hc fix hfix
    obtain ⟨d, hd, hdfix⟩ := Option.bind_eq_some_iff.1 hfix
    refine attachedFix_of_checkCall ?_ hdfix
    rw [hfound c hc, hd]
  have hfixes : fixesOf (calls.filterMap found) =
      calls.filterMap fun c => (found c).bind (·.fix) := by
    rw [fixesOf, List.filterMap_filterMap]
  have hapart := h.apart hattached
  rw [← hfixes] at hapart
  refine ⟨calls.filterMap found, checkCalls_eq_ok hfound, hapart, Fix.select_perm hapart, ?_⟩
  apply Fix.applyAll_of_apart hapart
  intro fix hfix
  rw [hfixes] at hfix
  obtain ⟨c, hc, hcfix⟩ := List.mem_filterMap.1 hfix
  have hc' := hattached c hc fix hcfix
  have hstop := (hc'.strictly_within (h.wellPlaced c hc hc'.isGettext)).2
  have := h.inside c hc
  omega

/-- The calls of the text `__(__('a'), 'other')`. -/
def nestedCalls : List Call :=
  [{ functionName := "__".toList
     arguments := [⟨.other .null, ⟨3, 10, by decide⟩, "__('a')".toList, none⟩,
       ⟨.literal "other".toList, ⟨12, 19, by decide⟩, "'other'".toList, none⟩]
     span := ⟨0, 20, by decide⟩
     location := none
     inOrder := by decide },
   { functionName := "__".toList
     arguments := [⟨.literal "a".toList, ⟨6, 9, by decide⟩, "'a'".toList, none⟩]
     span := ⟨3, 10, by decide⟩
     location := none
     inOrder := by decide }]

theorem callsOf_nestedCalls : CallsOf "__(__('a'), 'other')".toList nestedCalls where
  inside := by decide
  distinct := by decide
  nested_or_disjoint := by decide
  wellPlaced := by
    intro c hc _
    simp only [nestedCalls, List.mem_cons, List.not_mem_nil, or_false] at hc
    rcases hc with rfl | rfl <;>
      exact ⟨by decide, by decide, by decide, by decide, by decide, by decide, by decide⟩
  surrounds := by
    intro c hc _ inner hinner hwithin hne
    simp only [nestedCalls, List.mem_cons, List.not_mem_nil, or_false] at hc hinner
    rcases hc with rfl | rfl
    · rcases hinner with rfl | rfl
      · exact absurd rfl hne
      · exact ⟨by decide, by decide, by decide⟩
    · rcases hinner with rfl | rfl
      · exact absurd hwithin (by decide)
      · exact absurd rfl hne

/-- Both calls of `__(__('a'), 'other')` get their fix in the first pass. -/
theorem fixes_of_nestedCalls_apart :
    CallsOf "__(__('a'), 'other')".toList nestedCalls ∧
      ∃ ds, checkCalls { allowed := ["d".toList] } nestedCalls = .ok ds ∧
        (fixesOf ds).length = 2 ∧ (fixesOf ds).Pairwise Fix.Apart ∧
        ∃ fixed, Fix.applyAll "__(__('a'), 'other')".toList (fixesOf ds) = .ok (fixed, 2) := by
  obtain ⟨ds, hds, hapart, -, fixed, hfixed⟩ :=
    fixes_of_calls_apart callsOf_nestedCalls { allowed := ["d".toList] }
  have hlength : (fixesOf ds).length = 2 := by
    obtain rfl := Except.ok.inj hds
    rfl
  rw [hlength] at hfixed
  exact ⟨callsOf_nestedCalls, ds, hds, hlength, hapart, fixed, hfixed⟩

end TextDomain
