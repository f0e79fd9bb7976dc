import Mathlib.Data.List.Pairwise
import Mathlib.Data.List.Sort
import TextDomain.Proofs.Fixing.Separation
import TextDomain.Proofs.Fixing.Splice

/-!
# Which fixes a pass takes

A pass looks at the fixes in the order of their spans and compares each of them
with the end of the last one taken, and with nothing else. That this is enough has
two reasons. The ends of the fixes that are taken ascend, so that a fix behind the
last end is behind all of them; and a fix that is put off begins no earlier than
the one that it is put off for, since it comes later in the order.

So a fix that is put off is blocked for good: by a fix that is taken, that comes
before it or has the same span, and that reaches to its beginning. `Span.Chosen`
says this of spans alone, without an order in which they are looked at. It leaves
no freedom: no two choices among the same spans are different.

## Main results

* `Fix.exists_deferred` — every fix that is put off is blocked by one that is taken.
* `Span.Chosen.eq_of_mem_iff` — among the same spans there is only one choice.
* `Fix.select_maximal` — no fix can be added to those that are taken.
* `Fix.applied_maximal` — all of this for the fixes that a pass has applied.
-/

namespace TextDomain

/-! ## Spans that block each other -/

namespace Span

/-- A fix on the first span keeps one on the second from being carried out in the
same pass: the second does not come before the first, and begins at or before its
end. -/
def Blocks (s t : Span) : Prop := s.le t = true ∧ t.start ≤ s.stop

theorem blocks_self (s : Span) : s.Blocks s :=
  ⟨le_iff.2 (.inr ⟨rfl, Nat.le_refl _⟩), s.start_le_stop⟩

theorem Blocks.start_le {s t : Span} (h : s.Blocks t) : s.start ≤ t.start := by
  have := le_iff.1 h.1
  omega

end Span

/-! ## Looking at the fixes in their order -/

namespace Fix

/-- What becomes of fixes that are looked at behind the offset `last`: some are taken, and
each of the others is put off for `last` or for one that is taken. -/
structure Scanned (last : Option Nat) (fixes taken deferred : List Fix) : Prop where
  perm : (taken ++ deferred).Perm fixes
  blocked : ∀ f ∈ deferred, (∃ stop ∈ last, f.span.start ≤ stop) ∨
    ∃ g ∈ taken, g.span.Blocks f.span

namespace Scanned

variable {last : Option Nat} {stop : Nat} {f : Fix} {rest taken deferred : List Fix}

/-- A fix that is taken comes before the others, and those put off for its end are put off
for it. -/
theorem take (h : Scanned (some f.span.stop) rest taken deferred)
    (hfirst : ∀ g ∈ rest, f.span.le g.span = true) (last : Option Nat) :
    Scanned last (f :: rest) (f :: taken) deferred where
  perm := h.perm.cons f
  blocked := by
    intro g hg
    have hrest : g ∈ rest := h.perm.subset (List.mem_append_right taken hg)
    rcases h.blocked g hg with ⟨stop, hstop, hle⟩ | ⟨t, ht, hblocks⟩
    · obtain rfl := Option.some.inj hstop
      exact .inr ⟨f, List.mem_cons_self .., hfirst g hrest, hle⟩
    · exact .inr ⟨t, List.mem_cons_of_mem f ht, hblocks⟩

/-- A fix that begins at or before the last end is put off for it. -/
theorem defer (h : Scanned (some stop) rest taken deferred) (hle : f.span.start ≤ stop) :
    Scanned (some stop) (f :: rest) taken (f :: deferred) where
  perm := List.perm_middle.trans (h.perm.cons f)
  blocked := by
    intro g hg
    rcases List.mem_cons.1 hg with rfl | hg
    · exact .inl ⟨stop, rfl, hle⟩
    · exact h.blocked g hg

end Scanned

/-- Taking every fix that begins behind the last end sorts out fixes that are in order. -/
theorem exists_scanned (last : Option Nat) {fixes : List Fix}
    (h : fixes.Pairwise fun a b => a.span.le b.span = true) :
    ∃ deferred, Scanned last fixes (selectAfter last fixes) deferred := by
  fun_induction selectAfter last fixes with
  | case1 last => exact ⟨[], .refl _, fun _ hf => nomatch hf⟩
  | case2 f rest ih =>
    obtain ⟨hfirst, hrest⟩ := List.pairwise_cons.1 h
    obtain ⟨deferred, hscanned⟩ := ih hrest
    exact ⟨deferred, hscanned.take hfirst none⟩
  | case3 last f rest hlt ih =>
    obtain ⟨hfirst, hrest⟩ := List.pairwise_cons.1 h
    obtain ⟨deferred, hscanned⟩ := ih hrest
    exact ⟨deferred, hscanned.take hfirst (some last)⟩
  | case4 last f rest hle ih =>
    obtain ⟨deferred, hscanned⟩ := ih (List.pairwise_cons.1 h).2
    exact ⟨f :: deferred, hscanned.defer (Nat.le_of_not_lt hle)⟩

/-- A pass sorts out the fixes: each of those that it does not take is blocked by one that it
takes. -/
theorem exists_deferred (fixes : List Fix) :
    ∃ deferred, (select fixes ++ deferred).Perm fixes ∧
      ∀ f ∈ deferred, ∃ g ∈ select fixes, g.span.Blocks f.span := by
  obtain ⟨deferred, hscanned⟩ := exists_scanned none (pairwise_inSpanOrder fixes)
  refine ⟨deferred, hscanned.perm.trans (sortBy_perm _ _), ?_⟩
  intro f hf
  rcases hscanned.blocked f hf with ⟨stop, hstop, -⟩ | hblocked
  · cases hstop
  · exact hblocked

end Fix

/-! ## There is only one choice -/

namespace Span

/-- A choice among spans: those that are chosen are in ascending order with a character
between any two, and every span is chosen or blocked by one that is. -/
structure Chosen (spans chosen : List Span) : Prop where
  subset : chosen ⊆ spans
  ascending : chosen.Pairwise fun s t => s.stop < t.start
  blocked : ∀ s ∈ spans, ∃ t ∈ chosen, t.Blocks s

namespace Chosen

variable {spans spans' chosen chosen' : List Span}

theorem eq_or_apart (h : Chosen spans chosen) {s t : Span} (hs : s ∈ chosen) (ht : t ∈ chosen) :
    s = t ∨ s.stop < t.start ∨ t.stop < s.start := by
  by_cases heq : s = t
  · exact .inl heq
  · have hsymmetric : Std.Symm fun s t : Span => s.stop < t.start ∨ t.stop < s.start :=
      ⟨fun _ _ => Or.symm⟩
    have hapart : chosen.Pairwise fun s t => s.stop < t.start ∨ t.stop < s.start :=
      h.ascending.imp Or.inl
    exact .inr (hapart.forall hs ht heq)

/-- A span that one choice has is in every choice among the same spans. The induction is on
its beginning: what blocks it in the other choice is blocked in the first one by a span that
begins earlier, unless it is the span itself. -/
theorem mem_of_mem (h : Chosen spans chosen) (h' : Chosen spans' chosen')
    (hsame : ∀ s, s ∈ spans ↔ s ∈ spans') {s : Span} (hs : s ∈ chosen) : s ∈ chosen' := by
  induction hn : s.start using Nat.strong_induction_on generalizing s with
  | _ n ih =>
    obtain ⟨t, ht, hle, htouch⟩ := h'.blocked s ((hsame s).1 (h.subset hs))
    obtain ⟨u, hu, hle', htouch'⟩ := h.blocked t ((hsame t).2 (h'.subset ht))
    have hproper := u.start_le_stop
    rcases h.eq_or_apart hu hs with rfl | hbefore | hbehind
    · obtain rfl := le_antisymm hle hle'
      exact ht
    · -- The span that blocks the blocking one is chosen in both, and touches it.
      have hu' : u ∈ chosen' := ih u.start (by omega) hu rfl
      rcases h'.eq_or_apart hu' ht with rfl | hless | hless <;> omega
    · rw [le_iff] at hle hle'
      have := s.start_le_stop
      omega

/-- Among the same spans there is only one choice. -/
theorem eq_of_mem_iff (h : Chosen spans chosen) (h' : Chosen spans' chosen')
    (hsame : ∀ s, s ∈ spans ↔ s ∈ spans') : chosen = chosen' := by
  have hirrefl : Std.Irrefl fun s t : Span => s.stop < t.start :=
    ⟨fun s hs => Nat.lt_irrefl _ (Nat.lt_of_lt_of_le hs s.start_le_stop)⟩
  have hantisymm : Std.Antisymm fun s t : Span => s.stop < t.start := by
    refine ⟨fun s t hst hts => ?_⟩
    have := s.start_le_stop
    have := t.start_le_stop
    omega
  refine h.ascending.eq_of_mem_iff h'.ascending fun s => ⟨h.mem_of_mem h' hsame, ?_⟩
  exact h'.mem_of_mem h fun s => (hsame s).symm

end Chosen

end Span

namespace Fix

/-- The spans of the fixes that a pass takes are the choice among the spans of all. -/
theorem chosen_select (fixes : List Fix) :
    Span.Chosen (fixes.map Fix.span) ((select fixes).map Fix.span) where
  subset := List.map_subset _ fun _ hf => mem_sortBy.1 ((select_sublist fixes).subset hf)
  ascending := List.pairwise_map.2 (separated_select fixes)
  blocked := by
    intro s hs
    obtain ⟨f, hf, rfl⟩ := List.mem_map.1 hs
    obtain ⟨deferred, hperm, hblocked⟩ := exists_deferred fixes
    rcases List.mem_append.1 (hperm.symm.subset hf) with htaken | hdeferred
    · exact ⟨f.span, List.mem_map_of_mem htaken, f.span.blocks_self⟩
    · obtain ⟨g, hg, hblocks⟩ := hblocked f hdeferred
      exact ⟨g.span, List.mem_map_of_mem hg, hblocks⟩

/-! ## Nothing can be added -/

/-- Fixes of which one blocks the other are not apart. -/
theorem not_apart_of_blocks {f g : Fix} (h : g.span.Blocks f.span) : ¬ g.Apart f := by
  have hstart := h.start_le
  have htouch := h.2
  have := f.span.start_le_stop
  rintro (hbefore | hbehind)
  · simp only [Separated] at hbefore
    omega
  · simp only [Separated] at hbehind
    omega

/-- Fixes that are apart, some of those given and with all that a pass takes among them, are
those that the pass takes. -/
theorem select_maximal {fixes larger : List Fix} (htaken : (select fixes).Subperm larger)
    (hgiven : larger.Subperm fixes) (hapart : larger.Pairwise Apart) :
    larger.Perm (select fixes) := by
  by_cases hlength : larger.length ≤ (select fixes).length
  · exact (htaken.perm_of_length_le hlength).symm
  · exfalso
    obtain ⟨f, hlarger⟩ := htaken.exists_of_length_lt (Nat.lt_of_not_le hlength)
    obtain ⟨deferred, hperm, hblocked⟩ := exists_deferred fixes
    -- The fix that is there in addition is one of those that the pass puts off.
    have hdeferred : [f].Subperm deferred := by
      rw [← List.subperm_append_left (select fixes)]
      have hmore : (select fixes ++ [f]).Perm (f :: select fixes) := List.perm_append_singleton ..
      exact hmore.subperm.trans (hlarger.trans (hgiven.trans hperm.symm.subperm))
    obtain ⟨g, hg, hblocks⟩ := hblocked f (List.singleton_subperm_iff.1 hdeferred)
    obtain ⟨l, hl, hsublist⟩ := hlarger
    have hpairs : (f :: select fixes).Pairwise Apart :=
      (hl.pairwise_iff fun hab => hab.symm).1 (hapart.sublist hsublist)
    exact not_apart_of_blocks hblocks ((List.pairwise_cons.1 hpairs).1 g hg).symm

/-- Unless there are no fixes at all, a pass takes one that comes before all others. -/
theorem exists_least_mem_select {fixes : List Fix} (h : fixes ≠ []) :
    ∃ f ∈ select fixes, ∀ g ∈ fixes, f.span.le g.span = true := by
  cases hsorted : inSpanOrder fixes with
  | nil =>
    have hperm : (inSpanOrder fixes).Perm fixes := sortBy_perm _ _
    rw [hsorted] at hperm
    exact absurd hperm.symm.eq_nil h
  | cons f rest =>
    have hordered := pairwise_inSpanOrder fixes
    rw [hsorted] at hordered
    refine ⟨f, by rw [select, hsorted, selectAfter]; exact List.mem_cons_self .., ?_⟩
    intro g hg
    have hmem : g ∈ inSpanOrder fixes := mem_sortBy.2 hg
    rw [hsorted] at hmem
    rcases List.mem_cons.1 hmem with rfl | hrest
    · exact g.span.blocks_self.1
    · exact (List.pairwise_cons.1 hordered).1 g hrest

end Fix

/-! ## What a pass applies -/

/-- A pass that has something to fix and ends fixing has a result with no fewer
diagnostics. -/
theorem exists_remaining_of_done {policy : Policy} {file text : Text} {ds : List Diagnostic}
    (h : fixPass policy file text ds = .ok .done) (hfixes : fixesOf ds ≠ []) :
    ∃ fixed n remaining, Fix.applyAll text (fixesOf ds) = .ok (fixed, n) ∧
      lint fixed policy file = .ok remaining ∧ ds.length ≤ remaining.length := by
  unfold fixPass at h
  split at h
  next hnil => exact absurd hnil hfixes
  next f fs heq =>
    rw [heq]
    split at h
    next => cases h
    next fixed happly =>
      -- Without a fix applied there would have been none to apply.
      obtain ⟨-, hlength⟩ := Fix.edited_of_applyAll happly
      obtain ⟨g, hg, -⟩ := Fix.exists_least_mem_select (List.cons_ne_nil f fs)
      rw [List.length_eq_zero_iff.1 hlength] at hg
      cases hg
    next fixed n happly =>
      split at h
      next => cases h
      next => cases h
      next => cases h
      next remaining hlint =>
        split at h
        next => cases h
        next hge => exact ⟨fixed, n + 1, remaining, happly, hlint, Nat.le_of_not_lt hge⟩

namespace Fix

/-- The fixes that a pass applies have a character between any two. Every other fix begins
within one that is applied or at its end, so that none can be added; one with the least span
is among them, and unless there is no fix at all there is one. A pass that ends fixing
has therefore applied a fix, and its result has no fewer diagnostics. -/
theorem applied_maximal {text fixed : Text} {fixes : List Fix} {n : Nat}
    (h : applyAll text fixes = .ok (fixed, n)) :
    (select fixes).length = n ∧ fixed = (select fixes).foldr applyTo text ∧
      (select fixes).Pairwise Separated ∧
      (∃ deferred, (select fixes ++ deferred).Perm fixes ∧
        ∀ f ∈ deferred, ∃ g ∈ select fixes,
          g.span.start ≤ f.span.start ∧ f.span.start ≤ g.span.stop) ∧
      (∀ larger, (select fixes).Subperm larger → larger.Subperm fixes →
        larger.Pairwise Apart → larger.Perm (select fixes)) ∧
      (fixes ≠ [] → 0 < n ∧ ∃ f ∈ select fixes, ∀ g ∈ fixes, f.span.le g.span = true) ∧
      ∀ policy file ds, fixesOf ds = fixes → fixes ≠ [] →
        fixPass policy file text ds = .ok .done →
        ∃ remaining, lint fixed policy file = .ok remaining ∧ ds.length ≤ remaining.length := by
  obtain ⟨hedited, rfl⟩ := edited_of_applyAll h
  have hfold : (select fixes).foldr applyTo ([] ++ text) = [] ++ fixed := hedited.foldr_applyTo rfl
  obtain ⟨deferred, hperm, hblocked⟩ := exists_deferred fixes
  have hleast : fixes ≠ [] → 0 < (select fixes).length ∧
      ∃ f ∈ select fixes, ∀ g ∈ fixes, f.span.le g.span = true := by
    intro hne
    obtain ⟨f, hf, hle⟩ := exists_least_mem_select hne
    exact ⟨List.length_pos_of_mem hf, f, hf, hle⟩
  refine ⟨rfl, hfold.symm, separated_select fixes, ⟨deferred, hperm, ?_⟩,
    fun _ => select_maximal, hleast, ?_⟩
  · intro f hf
    obtain ⟨g, hg, hblocks⟩ := hblocked f hf
    exact ⟨g, hg, hblocks.start_le, hblocks.2⟩
  · rintro policy file ds rfl hne hdone
    obtain ⟨fixed', n, remaining, happly, hlint, hle⟩ := exists_remaining_of_done hdone hne
    rw [h] at happly
    cases happly
    exact ⟨remaining, hlint, hle⟩

/-- Fixes of ten digits, out of order: two replace the same digits, and an insertion
touches them. -/
def crowdedFixes : List Fix :=
  [⟨.replace, ⟨4, 6, by decide⟩, "xyz".toList⟩, ⟨.insert, .empty 6, "!".toList⟩,
    ⟨.replace, ⟨4, 6, by decide⟩, "ab".toList⟩, ⟨.insert, .empty 0, "^".toList⟩]

/-- The first fix of the digits is applied, and the other two are put off for it. -/
theorem applied_maximal_crowded :
    applyAll "0123456789".toList crowdedFixes = .ok ("^0123xyz6789".toList, 2) ∧
      (select crowdedFixes).length = 2 ∧ (select crowdedFixes).Pairwise Separated ∧
      (∃ deferred, (select crowdedFixes ++ deferred).Perm crowdedFixes ∧
        ∀ f ∈ deferred, ∃ g ∈ select crowdedFixes,
          g.span.start ≤ f.span.start ∧ f.span.start ≤ g.span.stop) ∧
      ∃ f ∈ select crowdedFixes, ∀ g ∈ crowdedFixes, f.span.le g.span = true := by
  have hpass : applyAll "0123456789".toList crowdedFixes = .ok ("^0123xyz6789".toList, 2) := by
    rfl
  obtain ⟨hlength, -, hseparated, hdeferred, -, hleast, -⟩ := applied_maximal hpass
  exact ⟨hpass, hlength, hseparated, hdeferred, (hleast (List.cons_ne_nil _ _)).2⟩

end Fix

end TextDomain
