import TextDomain.Proofs.Counting.Calls
import TextDomain.Proofs.Fixing.Replaced

/-!
# Calls that fixing keeps

A replacement writes the domain of a call anew, and nothing else. So whatever fixes of this kind
a pass carries out, the new text has the calls of the old one, each of the same function, and
with the same values in the slots before its domain: no string literal is the domain of one call
and stands in another slot of another one at once (`literalsOnce_of_collectCalls`).

The new text has no other fixes than the old one: a call is diagnosed as before, or its domain is
the allowed one now. So the same holds of the next pass, and of all passes together.

## Main results

* `applyAll_keeps_calls` — a fix on its own can be carried out, and a replacement keeps the calls.
* `rewritten_of_applyAll` — so do the fixes of a pass.
* `fixSource_keeps_slots` — fixing a text keeps the slots before the domains.
-/

namespace TextDomain

open Literal (Bare)

variable {text file : Text} {policy : Policy} {d : Text} {calls : List Call}

/-! ## The fix of a diagnostic -/

/-- Only a replacement is one. -/
theorem AttachedFix.exists_replacement {c : Call} {f : Fix} (h : AttachedFix policy c f)
    (hkind : f.kind = .replace) :
    ∃ g a, GettextFunction.ofName? c.functionName = some g ∧
      c.arguments[g.domainIndex.toNat]? = some a ∧ a.isLiteral = true ∧
      a.Replacement policy (some f) := by
  cases h with
  | insertion => cases hkind
  | @removal g a f gettext slot literal permitted made =>
    cases removalFix_eq_ok_iff.1 made with
    | made => cases hkind
  | @replacement g a value f gettext slot literal refused made =>
    refine ⟨g, a, gettext, slot, ?_, replacementFix_eq_ok_iff.1 made⟩
    rw [Argument.isLiteral, literal]

theorem Argument.Replacement.exists_allowed {a : Argument} {f : Fix}
    (h : a.Replacement policy (some f)) : ∃ d, policy.allowed = [d] := by
  cases h with
  | between only => exact ⟨_, only⟩
  | whole only => exact ⟨_, only⟩

/-- What a fix lies in stands in a replacement field only if the fix does. -/
theorem Span.InField.of_within {s t : Span} (h : t.InField text) (hs : s.Within t) :
    s.InField text := by
  obtain ⟨tokens, hlexed, u, hu, hformatted, i, j, hspans, hstart, hstop⟩ := h
  exact ⟨tokens, hlexed, u, hu, hformatted, i, j, hspans, hstart.trans_le hs.1, hs.2.trans hstop⟩

/-- Every fix of a text can be carried out alone. If it replaces a domain outside of replacement
fields, the new text has the calls of the old one, and of their arguments nothing but the value
of the domain has changed. -/
theorem applyAll_keeps_calls {ds : List Diagnostic} (hlint : lint text policy file = .ok ds)
    (hbare : ∀ x ∈ policy.allowed, Bare x) {diagnostic : Diagnostic} (hd : diagnostic ∈ ds)
    {f : Fix} (hfix : diagnostic.fix = some f) :
    Fix.applyAll text [f] = .ok (f.applyTo text, 1) ∧
      (f.kind = .replace → ¬ f.span.InField text →
        ∃ calls calls' d R s, collectCalls text file = .ok calls ∧
          collectCalls (f.applyTo text) file = .ok calls' ∧ policy.allowed = [d] ∧ InStep R ∧
          f.span.Within s ∧ List.Forall₂ (Call.Edited R [s] d) calls calls') := by
  refine ⟨applyAll_of_lint hlint hd hfix, fun hkind hfield => ?_⟩
  obtain ⟨calls, hcalls, c, hc, -, hattached⟩ :=
    exists_attachedFix_of_lint hlint (List.mem_filterMap.2 ⟨diagnostic, hd, hfix⟩)
  obtain ⟨g, a, -, hslot, hliteral, hmade⟩ := hattached.exists_replacement hkind
  obtain ⟨d, honly⟩ := hmade.exists_allowed
  have hrewrites : f.Rewrites policy text calls a.span :=
    ⟨fun hin => hfield (hin.of_within hmade.within), c, hc, a, List.mem_of_getElem? hslot, rfl,
      hliteral, hmade⟩
  obtain ⟨stop', calls', hlt, hlt', -, hrewritten⟩ :=
    hrewrites.rewritten hcalls honly (hbare d (by rw [honly]; exact List.mem_singleton_self d))
  exact ⟨calls, calls', d, _, a.span, hcalls, hrewritten.recorded, honly, hrewritten.inStep,
    hmade.within, hrewritten.edited⟩

/-- A text without formatted tokens has no replacement fields. -/
theorem Span.not_inField_of_plain {tokens : List Token}
    (hlexed : Token.lex? text.unifyTerminators = some tokens)
    (hplain : (tokens.filterMap fun t => Literal.splitPiece? t.text).all (!·.1.isFormatted) = true)
    (s : Span) : ¬ s.InField text := by
  rintro ⟨tokens', hlexed', t, ht, ⟨-, p, r, hpiece, hformatted⟩, -⟩
  obtain rfl := Option.some.inj (hlexed.symm.trans hlexed')
  have hp := List.all_eq_true.1 hplain _ (List.mem_filterMap.2 ⟨t, ht, hpiece⟩)
  rw [hformatted] at hp
  cases hp

/-- The domain of `__('a', 'b')` is replaced, and no other value changes. -/
theorem applyAll_keeps_calls_replacement : ∃ ds d f,
    lint "__('a', 'b')".toList { allowed := ["dd".toList] } [] = .ok ds ∧ d ∈ ds ∧
      d.fix = some f ∧ Fix.applyAll "__('a', 'b')".toList [f] = .ok ("__('a', 'dd')".toList, 1) ∧
      ∃ calls calls' value R s, collectCalls "__('a', 'b')".toList [] = .ok calls ∧
        collectCalls "__('a', 'dd')".toList [] = .ok calls' ∧ InStep R ∧ f.span.Within s ∧
        List.Forall₂ (Call.Edited R [s] value) calls calls' := by
  have hfixes : (lint "__('a', 'b')".toList { allowed := ["dd".toList] } []).toOption.map
      (List.map (·.fix)) = some [some ⟨.replace, ⟨9, 10, by decide⟩, "dd".toList⟩] := by
    decide +kernel
  have hplain : (Token.lex? (Text.unifyTerminators "__('a', 'b')".toList)).map
      (fun tokens => (tokens.filterMap fun t => Literal.splitPiece? t.text).all
        (!·.1.isFormatted)) = some true := by decide +kernel
  obtain ⟨ds, hds, hfixes⟩ := Option.map_eq_some_iff.1 hfixes
  obtain ⟨tokens, hlexed, hplain⟩ := Option.map_eq_some_iff.1 hplain
  obtain ⟨d, hd, hfix⟩ : ∃ d ∈ ds, d.fix = some ⟨.replace, ⟨9, 10, by decide⟩, "dd".toList⟩ :=
    List.mem_map.1 (hfixes ▸ List.mem_singleton_self _)
  have hlint := eq_ok_of_toOption hds
  obtain ⟨happly, hkept⟩ := applyAll_keeps_calls hlint (by decide) hd hfix
  obtain ⟨calls, calls', value, R, s, hcalls, hcalls', -, hR, hwithin, hedited⟩ :=
    hkept rfl (Span.not_inField_of_plain hlexed hplain _)
  exact ⟨ds, d, _, hlint, hd, hfix, happly, calls, calls', value, R, s, hcalls, hcalls', hR,
    hwithin, hedited⟩

/-! ## Calls and what has become of them -/

theorem Argument.literal?_eq_some_iff {a : Argument} {value : Text} :
    a.literal? = some value ↔ a.content = .literal value := by
  unfold literal?
  cases a.content <;> simp

/-- What is no new value was there before. -/
theorem Argument.Edited.content_eq {R : Nat → Nat → Prop} {spans : List Span} {a a' : Argument}
    (h : a.Edited R spans d a') {value : Text} (hcontent : a'.content = .literal value)
    (hne : value ≠ d) : a.content = .literal value := by
  have hliteral := h.literal
  rw [Argument.literal?_eq_some_iff.2 hcontent] at hliteral
  obtain ⟨v, hv, hvalue⟩ := Option.map_eq_some_iff.1 hliteral.symm
  split at hvalue
  · exact absurd hvalue.symm hne
  · exact Argument.literal?_eq_some_iff.1 (hvalue ▸ hv)

/-- A domain that is not allowed has a fix, since one domain is: the default is removed if it may
be left out, and anything else is replaced. -/
theorem exists_fix_of_refused {c : Call} {g : GettextFunction} {a : Argument} {value : Text}
    (callee : GettextFunction.ofName? c.functionName = some g)
    (slot : c.arguments[g.domainIndex.toNat]? = some a) (content : a.content = .literal value)
    (refused : ¬ policy.allows value = true) (honly : policy.allowed = [d])
    {d? : Option Diagnostic} (hcheck : checkCall c policy = .ok d?) :
    ∃ diagnostic f, d? = some diagnostic ∧ diagnostic.fix = some f ∧
      f.kind = if value = defaultDomain ∧ policy.allowDefault = true then .delete
        else .replace := by
  rw [checkCall_of_literal callee slot content, if_neg refused] at hcheck
  split at hcheck
  next hdefault =>
    obtain ⟨f, hf, rfl⟩ := map_eq_ok_iff.1 hcheck
    refine ⟨_, f, rfl, rfl, ?_⟩
    rw [if_pos hdefault]
    cases removalFix_eq_ok_iff.1 hf
    rfl
  next hdefault =>
    obtain ⟨fix?, hf, rfl⟩ := map_eq_ok_iff.1 hcheck
    cases fix? with
    | none =>
      cases replacementFix_eq_ok_iff.1 hf with
      | undecided several => exact absurd (by rw [honly]; rfl) several
    | some f =>
      refine ⟨_, f, rfl, rfl, ?_⟩
      rw [if_neg hdefault, (within_of_replacementFix hf).1]

namespace Call.Edited

variable {R : Nat → Nat → Prop} {spans : List Span} {c c' : Call}

/-- A call of a text with domains replaced has no other fix than before. -/
theorem exists_fix (h : c.Edited R spans d c') (hR : InStep R) (honly : policy.allowed = [d])
    (hok : ∃ d?, checkCall c policy = .ok d?) {diagnostic' : Diagnostic} {f' : Fix}
    (hcheck' : checkCall c' policy = .ok (some diagnostic')) (hfix' : diagnostic'.fix = some f') :
    ∃ diagnostic f, checkCall c policy = .ok (some diagnostic) ∧ diagnostic.fix = some f ∧
      f.kind = f'.kind := by
  have hlength := h.arguments.length_eq
  cases c'.evaluation with
  | foreign callee =>
    rw [checkCall_of_foreign callee] at hcheck'
    cases hcheck'
  | short callee short =>
    rw [checkCall_of_short callee short] at hcheck'
    split at hcheck'
    next => cases hcheck'
    next required =>
      obtain rfl := Option.some.inj (Except.ok.inj hcheck')
      cases insertionFix_eq_iff.1 hfix' with
      | made only anchor room =>
        rw [List.getLast?_eq_getElem?, ← hlength] at anchor
        obtain ⟨last, hlast, hargument⟩ := getElem?_of_forall₂ h.arguments anchor
        rw [← List.getLast?_eq_getElem?] at hlast
        have hroom := (hR hargument.span.stop h.span.stop).2 room
        have hinsertion := insertionFix_eq_iff.2 (.made only hlast hroom)
        rw [h.name] at callee
        rw [← hlength] at short
        exact ⟨_, _, (checkCall_of_short callee short).trans (if_neg required), hinsertion, rfl⟩
  | other callee slot content =>
    rw [checkCall_of_other callee slot content] at hcheck'
    obtain rfl := Option.some.inj (Except.ok.inj hcheck')
    cases hfix'
  | @literal g a' value callee slot content =>
    obtain ⟨a, hslot, ha⟩ := getElem?_of_forall₂ h.arguments slot
    by_cases allowed : policy.allows value = true
    · rw [checkCall_of_literal callee slot content, if_pos allowed] at hcheck'
      cases hcheck'
    · have hcontent : a.content = .literal value := ha.content_eq content fun heq => by
        rw [heq, Policy.allows_iff, honly] at allowed
        exact allowed (List.mem_singleton_self d)
      obtain ⟨_, made, heq, hmade, hkind'⟩ :=
        exists_fix_of_refused callee slot content allowed honly hcheck'
      obtain rfl := Option.some.inj heq
      obtain rfl := Option.some.inj (hmade.symm.trans hfix')
      obtain ⟨d?, hok⟩ := hok
      rw [h.name] at callee
      obtain ⟨diagnostic, f, rfl, hfix, hkind⟩ :=
        exists_fix_of_refused callee hslot hcontent allowed honly hok
      exact ⟨diagnostic, f, hok, hfix, hkind.trans hkind'.symm⟩

/-- The slots of a call keep what stands in them, but for the values of the literals that are
written anew. -/
theorem sameSlots (h : c.Edited R spans d c')
    (hslots : ∀ g i a, GettextFunction.ofName? c.functionName = some g → i < g.domainIndex.toNat →
      c.arguments[i]? = some a → a.isLiteral = true → a.span ∉ spans) : c.SameSlots c' := by
  refine ⟨h.name, fun g hg i hi => ?_⟩
  cases hslot : c'.arguments[i]? with
  | none =>
    rw [List.getElem?_eq_none (h.arguments.length_eq.symm ▸ List.getElem?_eq_none_iff.1 hslot)]
  | some a' =>
    obtain ⟨a, ha, hargument⟩ := getElem?_of_forall₂ h.arguments hslot
    rw [ha, Option.map_some, Option.map_some, hargument.literal]
    cases hliteral : a.literal? with
    | none => rfl
    | some v =>
      have hnot := hslots g i a hg hi ha (by rw [Argument.isLiteral_eq_isSome, hliteral]; rfl)
      rw [Option.map_some, if_neg hnot]

end Call.Edited

theorem Call.SameSlots.refl (c : Call) : c.SameSlots c := ⟨rfl, fun _ _ _ _ => rfl⟩

theorem Call.SameSlots.trans {c c' c'' : Call} (h : c.SameSlots c') (h' : c'.SameSlots c'') :
    c.SameSlots c'' :=
  ⟨h'.1.trans h.1, fun g hg i hi => (h'.2 g (h.1 ▸ hg) i hi).trans (h.2 g hg i hi)⟩

/-! ## Passes -/

/-- Every fix replaces a domain, and that outside of replacement fields. -/
def Replaceable (policy : Policy) (text : Text) (calls : List Call) : Prop :=
  ∀ c ∈ calls, ∀ diagnostic f, checkCall c policy = .ok (some diagnostic) →
    diagnostic.fix = some f → f.kind = .replace ∧
      ∀ g a, GettextFunction.ofName? c.functionName = some g →
        c.arguments[g.domainIndex.toNat]? = some a → ¬ a.span.InField text

namespace Text.Rewritten

variable {R : Nat → Nat → Prop} {spans : List Span} {text' : Text} {calls' : List Call}

theorem replaceable (h : Text.Rewritten R spans d file text text' calls calls')
    (honly : policy.allowed = [d]) (hok : ∀ c ∈ calls, ∃ d?, checkCall c policy = .ok d?)
    (hcalls : Replaceable policy text calls) : Replaceable policy text' calls' := by
  intro c' hc' diagnostic' f' hcheck' hfix'
  obtain ⟨c, hc, hedited⟩ := Node.exists_mem_of_forall₂ h.edited hc'
  obtain ⟨diagnostic, f, hcheck, hfix, hkind⟩ :=
    hedited.exists_fix h.inStep honly (hok c hc) hcheck' hfix'
  obtain ⟨hreplace, hfield⟩ := hcalls c hc diagnostic f hcheck hfix
  refine ⟨hkind ▸ hreplace, fun g a' hg ha' hin => ?_⟩
  obtain ⟨a, ha, hargument⟩ := getElem?_of_forall₂ hedited.arguments ha'
  exact hfield g a (hedited.name ▸ hg) ha (h.inField hargument.span hin)

end Text.Rewritten

theorem exists_forall₂ {α β : Type} {R : α → β → Prop} {l : List α} (h : ∀ x ∈ l, ∃ y, R x y) :
    ∃ l', List.Forall₂ R l l' := by
  induction l with
  | nil => exact ⟨[], .nil⟩
  | cons x l ih =>
    obtain ⟨y, hy⟩ := h x (List.mem_cons_self ..)
    obtain ⟨l', hl'⟩ := ih fun z hz => h z (List.mem_cons_of_mem x hz)
    exact ⟨y :: l', .cons hy hl'⟩

theorem mem_checkCalls {ds : List Diagnostic} (h : checkCalls policy calls = .ok ds) {c : Call}
    (hc : c ∈ calls) {diagnostic : Diagnostic}
    (hcheck : checkCall c policy = .ok (some diagnostic)) : diagnostic ∈ ds := by
  induction calls generalizing ds with
  | nil => cases hc
  | cons c' rest ih =>
    obtain ⟨d?, more, hc', hrest, rfl⟩ := checkCalls_cons_eq_ok h
    rcases List.mem_cons.1 hc with rfl | hc
    · rw [hcheck] at hc'
      obtain rfl := Except.ok.inj hc'
      exact List.mem_append_left _ (List.mem_singleton_self _)
    · exact List.mem_append_right _ (ih hrest hc)

/-- A span of a domain. -/
def IsDomainSpan (calls : List Call) (s : Span) : Prop :=
  ∃ c ∈ calls, ∃ g a, GettextFunction.ofName? c.functionName = some g ∧
    c.arguments[g.domainIndex.toNat]? = some a ∧ a.isLiteral = true ∧ a.span = s

/-- A pass that carries out a fix leaves the text with domains written anew. -/
theorem rewritten_of_applyAll {ds : List Diagnostic} (hcalls : collectCalls text file = .ok calls)
    (hlint : lint text policy file = .ok ds) (hbare : ∀ x ∈ policy.allowed, Bare x)
    (h : Replaceable policy text calls) {fixed : Text} {n : Nat}
    (happly : Fix.applyAll text (fixesOf ds) = .ok (fixed, n + 1)) :
    ∃ R spans d calls', policy.allowed = [d] ∧ (∀ s ∈ spans, IsDomainSpan calls s) ∧
      Text.Rewritten R spans d file text fixed calls calls' := by
  obtain ⟨hlength, -, hseparated, rfl, -⟩ := Fix.applyAll_eq_foldr happly
  have hfixes : ∀ f ∈ Fix.select (fixesOf ds), ∃ s,
      f.Rewrites policy text calls s ∧ IsDomainSpan calls s := by
    intro f hf
    have hmem : f ∈ fixesOf ds := mem_sortBy.1 ((Fix.select_sublist _).subset hf)
    obtain ⟨diagnostic, hd, hfix⟩ := List.mem_filterMap.1 hmem
    obtain ⟨c, hc, hcheck⟩ := exists_call_of_mem_checkCalls (checkCalls_of_lint hcalls hlint) hd
    obtain ⟨hkind, hfield⟩ := h c hc diagnostic f hcheck hfix
    obtain ⟨g, a, hg, hslot, hliteral, hmade⟩ :=
      (attachedFix_of_checkCall hcheck hfix).exists_replacement hkind
    have hrewrites : f.Rewrites policy text calls a.span :=
      ⟨hfield g a hg hslot, c, hc, a, List.mem_of_getElem? hslot, rfl, hliteral, hmade⟩
    exact ⟨a.span, hrewrites, c, hc, g, a, hg, hslot, hliteral, rfl⟩
  obtain ⟨spans, hspans⟩ := exists_forall₂ hfixes
  obtain ⟨d, honly⟩ : ∃ d, policy.allowed = [d] := by
    obtain ⟨f, hf⟩ := List.exists_mem_of_length_pos (l := Fix.select (fixesOf ds)) (by omega)
    obtain ⟨s, ⟨-, c, hc, a, -, -, -, hmade⟩, -⟩ := hfixes f hf
    exact hmade.exists_allowed
  obtain ⟨R, calls', hrewritten, -⟩ := rewritten_of_fixes honly
    (hbare d (by rw [honly]; exact List.mem_singleton_self d)) hcalls hseparated
    (hspans.imp fun _ _ h => h.1)
  refine ⟨R, spans, d, calls', honly, fun s hs => ?_, hrewritten⟩
  obtain ⟨f, -, -, hdomain⟩ := Node.exists_mem_of_forall₂ hspans hs
  exact hdomain

/-- Domains written anew leave the slots before them alone. -/
theorem sameSlots_of_rewritten {R : Nat → Nat → Prop} {spans : List Span} {text' : Text}
    {calls' : List Call} (h : Text.Rewritten R spans d file text text' calls calls')
    (honce : LiteralsOnce calls) (hspans : ∀ s ∈ spans, IsDomainSpan calls s) :
    List.Forall₂ Call.SameSlots calls calls' := by
  have hboth := (List.forall₂_and_left ..).2 ⟨fun c (hc : c ∈ calls) => hc, h.edited⟩
  refine hboth.imp fun c c' ⟨hc, hedited⟩ => hedited.sameSlots fun g i a hg hi ha hliteral hin => ?_
  obtain ⟨c₁, hc₁, g₁, b, hg₁, hslot, hliteral', hspan⟩ := hspans a.span hin
  obtain ⟨hname, rfl⟩ := honce c hc c₁ hc₁ i g₁.domainIndex.toNat a b ha hslot hliteral hliteral'
    hspan.symm
  rw [hname, hg₁] at hg
  obtain rfl := Option.some.inj hg
  exact Nat.lt_irrefl _ hi

/-- The text of a discarded pass is not well-formed. -/
theorem fixPass_discarded {ds : List Diagnostic}
    (h : fixPass policy file text ds = .ok .discarded) :
    ∃ fixed n, Fix.applyAll text (fixesOf ds) = .ok (fixed, n + 1) ∧ ¬ WellFormed fixed := by
  unfold fixPass at h
  split at h
  next => cases h
  next f fs hfixes =>
    rw [hfixes]
    split at h
    next => cases h
    next => cases h
    next fixed n happly =>
      refine ⟨fixed, n, happly, fun hfixed => ?_⟩
      obtain ⟨remaining, hremaining⟩ := hfixed.lint_ok policy file
      rw [hremaining] at h
      dsimp only at h
      split at h <;> cases h

theorem wellFormed_of_collectCalls (h : collectCalls text file = .ok calls) : WellFormed text := by
  obtain ⟨hnull, n, hn, -⟩ := collectCalls_eq_ok_iff.1 h
  exact ⟨Bool.eq_false_iff.2 fun hmem => hnull (List.contains_iff_mem.1 hmem),
    Option.isSome_of_eq_some hn⟩

theorem recorded_of_collectCalls (h : collectCalls text file = .ok calls) {c : Call}
    (hc : c ∈ calls) : Node.CallSite.Recorded text c := by
  obtain ⟨calls', hcalls', hrecorded⟩ := (wellFormed_of_collectCalls h).collectCalls_ok file
  obtain rfl := Except.ok.inj (h.symm.trans hcalls')
  exact hrecorded c hc

theorem fixPasses_keeps_slots (hbare : ∀ x ∈ policy.allowed, Bare x) {passes : Nat}
    {ds : List Diagnostic} (hcalls : collectCalls text file = .ok calls)
    (hlint : lint text policy file = .ok ds) (h : Replaceable policy text calls) :
    ∃ r calls', fixPasses policy file passes text ds = .ok r ∧ r.notices = [] ∧
      collectCalls r.text file = .ok calls' ∧ List.Forall₂ Call.SameSlots calls calls' := by
  have hrefl : List.Forall₂ Call.SameSlots calls calls :=
    List.forall₂_same.2 fun c _ => Call.SameSlots.refl c
  induction passes generalizing text ds calls with
  | zero => exact ⟨_, calls, rfl, rfl, hcalls, hrefl⟩
  | succ passes ih =>
    have hok : ∀ c ∈ calls, ∃ d?, checkCall c policy = .ok d? := fun c hc =>
      Call.Spaced.checkCall_ok (fun _ => (recorded_of_collectCalls hcalls hc).spaced) policy
    obtain ⟨pass, hpass⟩ := fixPass_ok hlint
    cases pass with
    | done => exact ⟨⟨text, ds, []⟩, calls, by rw [fixPasses, hpass], rfl, hcalls, hrefl⟩
    | discarded =>
      obtain ⟨fixed, n, happly, hnot⟩ := fixPass_discarded hpass
      obtain ⟨R, spans, d, calls', -, -, hrewritten⟩ :=
        rewritten_of_applyAll hcalls hlint hbare h happly
      exact absurd (wellFormed_of_collectCalls hrewritten.recorded) hnot
    | accepted fixed remaining =>
      obtain ⟨⟨n, happly⟩, hremaining, -⟩ := fixPass_accepted hpass
      obtain ⟨R, spans, d, calls', honly, hspans, hrewritten⟩ :=
        rewritten_of_applyAll hcalls hlint hbare h happly
      obtain ⟨r, calls'', hr, hnotices, hrecorded, hslots⟩ := ih hrewritten.recorded hremaining
        (hrewritten.replaceable honly hok h)
        (List.forall₂_same.2 fun c _ => Call.SameSlots.refl c)
      refine ⟨r, calls'', by rw [fixPasses, hpass]; exact hr, hnotices, hrecorded, ?_⟩
      exact Rewriting.forall₂_comp (fun _ _ _ h h' => h.trans h')
        (sameSlots_of_rewritten hrewritten (literalsOnce_of_collectCalls hcalls) hspans) hslots

/-- If all that is to be fixed of a text are domains that are replaced outside of replacement
fields, then fixing the text keeps its calls, and in each of them the slots before the domain. -/
theorem fixSource_keeps_slots {ds : List Diagnostic} (hcalls : collectCalls text file = .ok calls)
    (hlint : lint text policy file = .ok ds) (hbare : ∀ x ∈ policy.allowed, Bare x)
    (hfixes : ∀ f ∈ fixesOf ds, f.kind = .replace ∧ ¬ f.span.InField text) :
    ∃ r calls', fixSource text policy file = .ok r ∧ r.notices = [] ∧
      collectCalls r.text file = .ok calls' ∧ List.Forall₂ Call.SameSlots calls calls' := by
  have hreplaceable : Replaceable policy text calls := by
    intro c hc diagnostic f hcheck hfix
    have hmem := mem_checkCalls (checkCalls_of_lint hcalls hlint) hc hcheck
    obtain ⟨hkind, hfield⟩ := hfixes f (List.mem_filterMap.2 ⟨diagnostic, hmem, hfix⟩)
    refine ⟨hkind, fun g a hg ha hin => hfield ?_⟩
    obtain ⟨g', a', hg', hslot, -, hmade⟩ :=
      (attachedFix_of_checkCall hcheck hfix).exists_replacement hkind
    obtain rfl := Option.some.inj (hg.symm.trans hg')
    obtain rfl := Option.some.inj (ha.symm.trans hslot)
    exact hin.of_within hmade.within
  simpa only [fixSource, hlint] using
    fixPasses_keeps_slots hbare hcalls hlint hreplaceable

end TextDomain
