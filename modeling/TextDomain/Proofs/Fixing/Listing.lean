import Mathlib.Data.List.Forall2
import TextDomain.Proofs.Fixing.Selection

/-!
# The order in which fixes are listed

Fixes come in the order of the calls that they are attached to, while a pass carries
them out in the order of their spans. The list matters in one respect only: of the
fixes with one span a pass takes the first, if it takes any.

Which spans it takes is settled by the set of spans alone, since there is only one
choice among them. Which fix it takes for a span is settled by the list, since
sorting keeps fixes of one span in the order in which they are listed. From these two
facts all statements about the order follow, and none of them looks at how the fixes
are sorted or chosen. What a pass comes to, the error included, depends on nothing
but the spans and the texts of the fixes that it takes.

## Main results

* `Fix.first?_of_mem_select` — a fix that is taken is the first one with its span.
* `Fix.SameFirsts.sameEdits_select` — the same spans with the same first texts lead to
  the same edits.
* `Fix.applyAll_of_sameFirsts` — and hence to the same outcome.
-/

namespace TextDomain

namespace Fix

/-! ## The first fix of a span -/

/-- The first of the fixes with a span. -/
def first? (s : Span) (fixes : List Fix) : Option Fix := fixes.find? fun f => decide (f.span = s)

theorem first?_eq_some {s : Span} {fixes : List Fix} {f : Fix} (h : first? s fixes = some f) :
    f ∈ fixes ∧ f.span = s := by
  unfold first? at h
  have hspan := List.find?_some h
  exact ⟨List.mem_of_find?_eq_some h, of_decide_eq_true hspan⟩

theorem first?_cons_self (f : Fix) (rest : List Fix) : first? f.span (f :: rest) = some f :=
  List.find?_cons_of_pos (decide_eq_true rfl)

theorem first?_cons_of_ne {s : Span} {f : Fix} (h : f.span ≠ s) (rest : List Fix) :
    first? s (f :: rest) = first? s rest :=
  List.find?_cons_of_neg (by simp [h])

theorem exists_first?_of_mem {s : Span} {fixes : List Fix} (h : s ∈ fixes.map Fix.span) :
    ∃ f, first? s fixes = some f := by
  obtain ⟨f, hf, hspan⟩ := List.mem_map.1 h
  exact Option.isSome_iff_exists.1 (List.find?_isSome.2 ⟨f, hf, decide_eq_true hspan⟩)

/-- Behind a fix with its span, a fix is not the first one. -/
theorem first?_append_cons {before : List Fix} {f : Fix}
    (h : f.span ∈ before.map Fix.span) (s : Span) (after : List Fix) :
    first? s (before ++ f :: after) = first? s (before ++ after) := by
  simp only [first?, List.find?_append]
  by_cases hs : f.span = s
  · obtain ⟨g, hg⟩ := exists_first?_of_mem h
    rw [hs, first?] at hg
    rw [hg, Option.some_or, Option.some_or]
  · rw [List.find?_cons_of_neg (by simp [hs])]

/-- In the order of the spans the first fix of a span stays the first. -/
theorem first?_inSpanOrder (s : Span) (fixes : List Fix) :
    first? s (inSpanOrder fixes) = first? s fixes := by
  apply find?_sortBy
  intro f g hf hg
  rw [of_decide_eq_true hf, of_decide_eq_true hg]
  exact s.blocks_self.1

/-- What is taken behind the last end is the first fix with its span: those passed by before
it begin no later than the last end, or have been taken and block it. -/
theorem first?_of_mem_selectAfter {last : Option Nat} {fixes : List Fix} {f : Fix}
    (h : f ∈ selectAfter last fixes) : first? f.span fixes = some f := by
  have hpassed : ∀ {g : Fix} {stop : Nat} {rest : List Fix}, g.span.start ≤ stop →
      f ∈ selectAfter (some stop) rest → first? f.span (g :: rest) = first? f.span rest := by
    intro g stop rest hle hf
    have hlt := lt_start_of_mem_selectAfter hf
    apply first?_cons_of_ne
    intro heq
    rw [heq] at hle
    omega
  fun_induction selectAfter last fixes with
  | case1 => cases h
  | case2 g rest ih =>
    rcases List.mem_cons.1 h with rfl | hf
    · exact first?_cons_self f rest
    · rw [hpassed g.span.start_le_stop hf, ih hf]
  | case3 last g rest hlt ih =>
    rcases List.mem_cons.1 h with rfl | hf
    · exact first?_cons_self f rest
    · rw [hpassed g.span.start_le_stop hf, ih hf]
  | case4 last g rest hle ih => rw [hpassed (Nat.le_of_not_lt hle) h, ih h]

/-- A fix that a pass takes is the first one with its span. -/
theorem first?_of_mem_select {fixes : List Fix} {f : Fix} (h : f ∈ select fixes) :
    first? f.span fixes = some f := by
  rw [← first?_inSpanOrder]
  exact first?_of_mem_selectAfter h

/-! ## The same edits -/

/-- Two fixes do the same to a text. -/
def SameEdit (f g : Fix) : Prop := f.span = g.span ∧ f.text = g.text

theorem sameEdits_of_spans {fixes fixes' : List Fix}
    (hspans : fixes.map Fix.span = fixes'.map Fix.span)
    (htexts : ∀ f ∈ fixes, ∀ g ∈ fixes', f.span = g.span → f.text = g.text) :
    List.Forall₂ SameEdit fixes fixes' := by
  induction fixes generalizing fixes' with
  | nil =>
    obtain rfl := List.map_eq_nil_iff.1 hspans.symm
    exact .nil
  | cons f rest ih =>
    cases fixes' with
    | nil => cases hspans
    | cons g rest' =>
      obtain ⟨hspan, hspans⟩ := List.cons.inj hspans
      have htext := htexts f (List.mem_cons_self ..) g (List.mem_cons_self ..) hspan
      refine .cons ⟨hspan, htext⟩ (ih hspans ?_)
      intro f' hf' g' hg'
      exact htexts f' (List.mem_cons_of_mem f hf') g' (List.mem_cons_of_mem g hg')

theorem splice_of_sameEdits {fixes fixes' : List Fix} (h : List.Forall₂ SameEdit fixes fixes')
    (cursor : Nat) (text : Text) : splice cursor text fixes = splice cursor text fixes' := by
  induction h generalizing cursor with
  | nil => rfl
  | cons hsame _ ih =>
    obtain ⟨hspan, htext⟩ := hsame
    rw [splice, splice, hspan, htext, ih]

theorem beyond_of_sameEdits {fixes fixes' : List Fix} (h : List.Forall₂ SameEdit fixes fixes')
    (length : Nat) :
    (fixes.find? fun f => decide (length < f.span.stop)).map Fix.span =
      (fixes'.find? fun f => decide (length < f.span.stop)).map Fix.span := by
  induction h with
  | nil => rfl
  | @cons f g _ _ hsame _ ih =>
    simp only [List.find?_cons, hsame.1]
    by_cases hbeyond : length < g.span.stop
    · simp only [hbeyond, decide_true, Option.map_some, hsame.1]
    · simp only [hbeyond, decide_false, ih]

/-- What a pass comes to depends only on the edits that it takes. -/
theorem applyAll_of_sameEdits {fixes fixes' : List Fix}
    (h : List.Forall₂ SameEdit (select fixes) (select fixes')) (text : Text) :
    applyAll text fixes = applyAll text fixes' := by
  have hbeyond := beyond_of_sameEdits h text.length
  simp only [applyAll, splice_of_sameEdits h, h.length_eq]
  cases hfind : (select fixes).find? fun f => decide (text.length < f.span.stop) with
  | none =>
    rw [hfind, Option.map_none] at hbeyond
    rw [Option.map_eq_none_iff.1 hbeyond.symm]
  | some f =>
    rw [hfind, Option.map_some] at hbeyond
    obtain ⟨g, hg, hspan⟩ := Option.map_eq_some_iff.1 hbeyond.symm
    rw [hg]
    simp only [hspan]

/-! ## The same first fixes -/

/-- Two lists of fixes have the same spans, and for each span the first fixes of the lists
have the same text. -/
structure SameFirsts (fixes fixes' : List Fix) : Prop where
  span_iff : ∀ s, s ∈ fixes.map Fix.span ↔ s ∈ fixes'.map Fix.span
  text_eq : ∀ s ∈ fixes.map Fix.span,
    (first? s fixes).map Fix.text = (first? s fixes').map Fix.text

/-- From the same first fixes a pass takes the same edits. -/
theorem SameFirsts.sameEdits_select {fixes fixes' : List Fix} (h : SameFirsts fixes fixes') :
    List.Forall₂ SameEdit (select fixes) (select fixes') := by
  apply sameEdits_of_spans ((chosen_select fixes).eq_of_mem_iff (chosen_select fixes') h.span_iff)
  intro f hf g hg hspan
  have hfirst := first?_of_mem_select hf
  have hfirst' := first?_of_mem_select hg
  have htext := h.text_eq f.span (List.mem_map_of_mem (first?_eq_some hfirst).1)
  rw [← hspan] at hfirst'
  rw [hfirst, hfirst'] at htext
  exact Option.some.inj htext

/-- A fix behind one with its span may be listed or not. -/
theorem sameFirsts_append_cons {before : List Fix} {f : Fix}
    (h : f.span ∈ before.map Fix.span) (after : List Fix) :
    SameFirsts (before ++ f :: after) (before ++ after) where
  span_iff := by
    intro s
    simp only [List.map_append, List.map_cons, List.mem_append, List.mem_cons]
    constructor
    · rintro (hs | rfl | hs)
      · exact .inl hs
      · exact .inl h
      · exact .inr hs
    · exact Or.imp_right Or.inr
  text_eq := fun s _ => by rw [first?_append_cons h]

/-- If fixes with one span have one text, their order does not matter. -/
theorem sameFirsts_of_perm {fixes fixes' : List Fix} (hperm : fixes.Perm fixes')
    (hunique : ∀ f ∈ fixes, ∀ g ∈ fixes, f.span = g.span → f.text = g.text) :
    SameFirsts fixes fixes' where
  span_iff := fun s => (hperm.map Fix.span).mem_iff
  text_eq := by
    intro s hs
    obtain ⟨f, hf⟩ := exists_first?_of_mem hs
    obtain ⟨g, hg⟩ := exists_first?_of_mem ((hperm.map Fix.span).mem_iff.1 hs)
    obtain ⟨hmem, hspan⟩ := first?_eq_some hf
    obtain ⟨hmem', hspan'⟩ := first?_eq_some hg
    have htext := hunique f hmem g (hperm.mem_iff.2 hmem') (hspan.trans hspan'.symm)
    rw [hf, hg, Option.map_some, Option.map_some, htext]

/-- Lists of fixes with the same spans, and with the same text in the first fix of every
span, have the same outcome in every text. So a fix behind one with its span has no
effect, and the order of fixes does not matter where those with one span have one text. -/
theorem applyAll_of_sameFirsts (text : Text) :
    (∀ fixes fixes', SameFirsts fixes fixes' → applyAll text fixes = applyAll text fixes') ∧
      (∀ before f after, f.span ∈ before.map Fix.span →
        applyAll text (before ++ f :: after) = applyAll text (before ++ after)) ∧
      ∀ fixes fixes' : List Fix, fixes.Perm fixes' →
        (∀ f ∈ fixes, ∀ g ∈ fixes, f.span = g.span → f.text = g.text) →
        applyAll text fixes = applyAll text fixes' := by
  have houtcome : ∀ fixes fixes', SameFirsts fixes fixes' →
      applyAll text fixes = applyAll text fixes' :=
    fun _ _ h => applyAll_of_sameEdits h.sameEdits_select text
  refine ⟨houtcome, ?_, ?_⟩
  · intro before f after h
    exact houtcome _ _ (sameFirsts_append_cons h after)
  · intro fixes fixes' hperm hunique
    exact houtcome _ _ (sameFirsts_of_perm hperm hunique)

/-- The fixes of `crowdedFixes` in another order, with the first one of the replacements
still in front of the second. -/
def relistedFixes : List Fix := crowdedFixes.drop 3 ++ crowdedFixes.take 3

/-- Listing the fixes in another order, leaving out the second replacement, or turning
the list without it around gives the same text. -/
theorem applyAll_of_sameFirsts_relisted :
    SameFirsts crowdedFixes relistedFixes ∧
      applyAll "0123456789".toList crowdedFixes = applyAll "0123456789".toList relistedFixes ∧
      applyAll "0123456789".toList relistedFixes =
        applyAll "0123456789".toList (relistedFixes.eraseIdx 3) ∧
      applyAll "0123456789".toList (relistedFixes.eraseIdx 3) =
        applyAll "0123456789".toList (relistedFixes.eraseIdx 3).reverse := by
  have hsame : SameFirsts crowdedFixes relistedFixes :=
    { span_iff := fun s =>
        ⟨fun hs => (by decide : crowdedFixes.map Fix.span ⊆ relistedFixes.map Fix.span) hs,
          fun hs => (by decide : relistedFixes.map Fix.span ⊆ crowdedFixes.map Fix.span) hs⟩
      text_eq := by decide }
  obtain ⟨hfirsts, hbehind, hperm⟩ := applyAll_of_sameFirsts "0123456789".toList
  refine ⟨hsame, hfirsts _ _ hsame, ?_, ?_⟩
  · exact hbehind (relistedFixes.take 3) _ [] (by decide)
  · exact hperm _ _ (List.reverse_perm _).symm (by decide)

end Fix

end TextDomain
