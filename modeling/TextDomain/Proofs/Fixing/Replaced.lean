import TextDomain.Proofs.Fixing.Spared
import TextDomain.Proofs.Rewriting.Calls
import TextDomain.Proofs.Rule.Replacement

/-!
# Texts with domains replaced

A fix that replaces a domain writes a string literal anew: as it was, but for the value between
its quotes, or, if it has several pieces, as one piece. If the literal stands in no replacement
field, the new text has the calls of the old one, and they are where the shift by the length of
the domain has moved them (`Text.Rewritten`).

The fixes of a pass are made from the last to the first. Each writes its literal in front of
those that were written before, where nothing has moved (`Steady`), so it finds its argument as
it was in the old text.

## Main results

* `Fix.Rewrites.rewritten` — a fix that writes a literal anew keeps the calls.
* `Fix.Rewrites.disjoint` — two literals are the same, or one of them ends in front of the other.
* `rewritten_of_fixes` — several fixes, one after another, keep the calls.
-/

namespace TextDomain

open Literal

variable {text file : Text} {policy : Policy} {d : Text}

/-! ## What a replacement writes -/

namespace Fix

/-- A fix puts its text in the place of what it covers. -/
theorem applyTo_append {f : Fix} {before middle : Text} (hstart : before.length = f.span.start)
    (hstop : (before ++ middle).length = f.span.stop) (after : Text) :
    f.applyTo (before ++ (middle ++ after)) = before ++ (f.text ++ after) := by
  rw [applyTo, List.take_left' hstart, ← List.append_assoc before, List.drop_left' hstop,
    List.append_assoc]

end Fix

/-- A bare text between two quotes, behind the letters of a plain literal, fits for it. -/
theorem Literal.FitsFor.of_bare {lit quote : Text} (hbare : Bare d)
    (hgroup : IsPlainGroup (lit.takeWhile isMarkerLetter)) (hquote : quote ∈ quotes) :
    FitsFor lit (lit.takeWhile isMarkerLetter ++ quote ++ d ++ quote) d where
  denotes := hbare.denotes hgroup hquote
  unified := by
    obtain ⟨m, wide, hm, hpiece⟩ := exists_mark_of_mem_quotes hquote
    have hquotes : '\r' ∉ quote := by
      rw [hpiece [] d]
      intro hmem
      obtain rfl : '\r' = m := List.eq_of_mem_replicate hmem
      cases hm
    have hletters : '\r' ∉ lit.takeWhile isMarkerLetter := fun hmem =>
      absurd (hgroup.isMarkerLetter_of_mem hmem) (by decide)
    have hvalue : '\r' ∉ d := fun hmem => hbare '\r' hmem (by decide)
    simp [hquotes, hletters, hvalue]
  first := by
    cases hletters : lit.takeWhile isMarkerLetter with
    | nil =>
      obtain ⟨m, wide, hm, hpiece⟩ := exists_mark_of_mem_quotes hquote
      refine ⟨m, ?_, .inl hm⟩
      rw [hpiece [] d]
      cases wide <;> rfl
    | cons l letters =>
      refine ⟨l, rfl, .inr ?_⟩
      obtain ⟨rest, hrest⟩ := List.takeWhile_prefix (l := lit) isMarkerLetter
      rw [← hrest, hletters]
      rfl

namespace Argument

variable {a b : Argument} {f : Fix} {fix? fix?' : Option Fix}

/-- A replacement is made by the place and the source of an argument. -/
theorem Replacement.congr (h : a.Replacement policy fix?) (hspan : b.span = a.span)
    (hsource : b.source = a.source) : b.Replacement policy fix? := by
  obtain ⟨content, span, source, location⟩ := a
  obtain ⟨content', span', source', location'⟩ := b
  obtain rfl : span' = span := hspan
  obtain rfl : source' = source := hsource
  cases h with
  | between only markers start stop => exact .between only markers start stop
  | whole only markers => exact .whole only markers
  | undecided several => exact .undecided several

theorem Replacement.unique (h : a.Replacement policy fix?) (h' : a.Replacement policy fix?') :
    fix? = fix?' := by
  have hmade : replacementFix (.ofArgument [] a) policy = .ok fix? := replacementFix_eq_ok_iff.2 h
  rw [replacementFix_eq_ok_iff.2 h'] at hmade
  exact (Except.ok.inj hmade).symm

theorem Replacement.within (h : a.Replacement policy (some f)) : f.span.Within a.span := by
  have hmade : replacementFix (.ofArgument [] a) policy = .ok (some f) :=
    replacementFix_eq_ok_iff.2 h
  exact (within_of_replacementFix hmade).2

end Argument

/-- A replacement writes a literal anew that may stand where the domain stood. -/
theorem Argument.Replacement.exists_literal {arg : Argument} {f : Fix}
    (h : arg.Replacement policy (some f)) (honly : policy.allowed = [d]) (hbare : Bare d)
    (hne : arg.source ≠ []) (hstop : arg.span.stop = arg.span.start + arg.source.length)
    (hgroup : IsPlainGroup (arg.source.takeWhile isMarkerLetter)) :
    ∃ new, FitsFor arg.source new d ∧ ∀ pre post : Text, pre.length = arg.span.start →
      f.applyTo (pre ++ (arg.source ++ post)) = pre ++ (new ++ post) := by
  cases h with
  | @between d' m span only markers start stop =>
    obtain rfl : d' = d := List.head_eq_of_cons_eq (only.symm.trans honly)
    rw [markers?, if_neg (by simpa using hne)] at markers
    obtain ⟨quote, hquote, middle, hsource, rfl⟩ := markersOf?_eq markers
    refine ⟨_, .of_bare hbare hgroup hquote, fun pre post hpre => ?_⟩
    dsimp only at start stop
    generalize arg.source.takeWhile isMarkerLetter = letters at start hsource
    rw [hsource] at hstop ⊢
    have happlied : Fix.applyTo ⟨.replace, span, d'⟩
        (pre ++ (letters ++ quote) ++ (middle ++ (quote ++ post))) =
          pre ++ (letters ++ quote) ++ (d' ++ (quote ++ post)) :=
      Fix.applyTo_append (by simp only [List.length_append]; omega)
        (by simp only [List.length_append] at hstop ⊢; omega) _
    simpa only [List.append_assoc] using happlied
  | @whole d' only markers =>
    obtain rfl : d' = d := List.head_eq_of_cons_eq (only.symm.trans honly)
    refine ⟨'\'' :: d' ++ ['\''], ⟨denotes_new_literal hbare, ?_, ⟨'\'', rfl, .inl rfl⟩⟩,
      fun pre post hpre => ?_⟩
    · have hvalue : '\r' ∉ d' := fun hmem => hbare '\r' hmem (by decide)
      simp [hvalue]
    · exact Fix.applyTo_append hpre (by rw [List.length_append, hpre, hstop]) post

/-! ## Texts with literals written anew -/

/-- Up to an offset, offsets correspond to themselves. -/
def Steady (k : Nat) (R : Nat → Nat → Prop) : Prop :=
  ∀ ⦃i i' : Nat⦄, R i i' → i ≤ k ∨ i' ≤ k → i' = i

theorem Steady.span_eq {k : Nat} {R : Nat → Nat → Prop} (h : Steady k R) {s s' : Span}
    (hs : s.Maps R s') (hk : s.stop ≤ k) : s' = s := by
  have hproper := s.start_le_stop
  have hstart := h hs.start (.inl (by omega))
  have hstop := h hs.stop (.inl hk)
  cases s
  cases s'
  exact (Span.mk.injEq ..).mpr ⟨hstart, hstop⟩

/-- `text'` is `text` with the literals at some spans written anew: the calls are the same but
for the values of these literals, and nothing has come into a replacement field. -/
structure Text.Rewritten (R : Nat → Nat → Prop) (spans : List Span) (d file text text' : Text)
    (calls calls' : List Call) : Prop where
  inStep : InStep R
  inField : ∀ ⦃s s' : Span⦄, s.Maps R s' → s'.InField text' → s.InField text
  recorded : collectCalls text' file = .ok calls'
  edited : List.Forall₂ (Call.Edited R spans d) calls calls'

/-- The fix writes the literal at a span anew, which is an argument outside of replacement
fields. -/
def Fix.Rewrites (policy : Policy) (text : Text) (calls : List Call) (f : Fix) (s : Span) : Prop :=
  ¬ s.InField text ∧ ∃ c ∈ calls, ∃ a ∈ c.arguments, a.span = s ∧ a.isLiteral = true ∧
    a.Replacement policy (some f)

theorem Argument.isLiteral_eq_isSome (a : Argument) : a.isLiteral = a.literal?.isSome := by
  unfold isLiteral literal?
  split <;> rfl

/-- Arguments have the text of their span for a source. -/
theorem source_of_collectCalls {calls : List Call} (hcalls : collectCalls text file = .ok calls)
    {c : Call} (hc : c ∈ calls) {a : Argument} (ha : a ∈ c.arguments) :
    a.source = a.span.slice text ∧ a.source.length = a.span.length := by
  obtain ⟨-, -, hexact, -⟩ := lint_keeps_contract text file {}
  exact hexact calls hcalls c hc a ha

section Steps

variable {calls : List Call} (hcalls : collectCalls text file = .ok calls)

include hcalls

/-- The text around a literal that a fix writes anew. -/
theorem Fix.Rewrites.exists_original {f : Fix} {s : Span} (h : f.Rewrites policy text calls s) :
    ∃ pre lit post tokens run, text = pre ++ (lit ++ post) ∧ pre.length = s.start ∧
      (pre ++ lit).length = s.stop ∧ s.slice text = lit ∧
      Rewriting.Original pre lit post tokens run := by
  obtain ⟨hfield, c, hc, a, ha, rfl, hliteral, hmade⟩ := h
  have hinside := stop_le_length_of_collectCalls hcalls hc ha
  have hproper := a.span.start_le_stop
  have htext : text = text.take a.span.start ++
      (a.span.slice text ++ text.drop a.span.stop) := by
    have hparts := Fix.drop_eq_parts text (Nat.zero_le a.span.start)
    simpa using hparts
  have hpre : (text.take a.span.start).length = a.span.start := by
    rw [List.length_take]
    omega
  have hstop : (text.take a.span.start ++ a.span.slice text).length = a.span.stop := by
    rw [List.length_append, hpre, Span.length_slice hinside, Span.length]
    omega
  obtain ⟨tokens, run, horiginal⟩ : ∃ tokens run, Rewriting.Original (text.take a.span.start)
      (a.span.slice text) (text.drop a.span.stop) tokens run :=
    Rewriting.exists_original (by rw [← htext]; exact hcalls) hc ha hliteral hpre.symm hstop.symm
      (by rw [← htext]; exact hfield)
  exact ⟨_, _, _, tokens, run, htext, hpre, hstop, rfl, horiginal⟩

/-- A fix that writes a literal anew keeps the calls. -/
theorem Fix.Rewrites.rewritten (honly : policy.allowed = [d]) (hbare : Bare d) {f : Fix} {s : Span}
    (h : f.Rewrites policy text calls s) :
    ∃ stop' calls', s.start < s.stop ∧ s.start < stop' ∧
      (f.applyTo text).take s.start = text.take s.start ∧
      Text.Rewritten (Shifts s.start s.stop stop') [s] d file text (f.applyTo text)
        calls calls' := by
  obtain ⟨pre, lit, post, tokens, run, htext, hpre, hstop, hslice, horiginal⟩ :=
    h.exists_original hcalls
  obtain ⟨-, c, hc, a, ha, rfl, -, hmade⟩ := h
  have hsource : a.source = lit := by
    rw [(source_of_collectCalls hcalls hc ha).1, hslice]
  have hlength : a.span.stop = a.span.start + a.source.length := by
    rw [← hstop, ← hpre, hsource, List.length_append]
  obtain ⟨new, hfits, happly⟩ := hmade.exists_literal honly hbare (hsource ▸ horiginal.ne_nil)
    hlength (hsource ▸ horiginal.isPlainGroup)
  rw [hsource] at hfits happly
  have hnew := happly pre post hpre
  subst htext
  obtain ⟨calls', hrecorded, hedited⟩ :=
    horiginal.collectCalls_rewritten hfits hpre.symm hstop.symm hcalls
  obtain ⟨hlit, hlt⟩ := horiginal.length_lt hfits
  rw [hpre, hstop] at hlit
  rw [hpre] at hlt
  refine ⟨(pre ++ new).length, calls', hlit, hlt, ?_, inStep_shifts hlit hlt, ?_, ?_, hedited⟩
  · rw [hnew, ← hpre, List.take_left, List.take_left]
  · intro s s' hs hfield
    rw [hnew] at hfield
    exact horiginal.inField_of_rewritten hfits (by rw [hpre, hstop]; exact hs) hfield
  · rw [hnew]
    exact hrecorded

/-- Of two literals that are written anew, the one ends before the other begins. -/
theorem Fix.Rewrites.disjoint {f g : Fix} {s t : Span} (hf : f.Rewrites policy text calls s)
    (hg : g.Rewrites policy text calls t) : s = t ∨ s.Disjoint t := by
  obtain ⟨pre, lit, post, tokens, run, htext, hpre, hstop, -, h⟩ := hf.exists_original hcalls
  obtain ⟨pre', lit', post', tokens', run', htext', hpre', hstop', -, h'⟩ :=
    hg.exists_original hcalls
  obtain ⟨first, hfirst⟩ := h.exists_first
  obtain ⟨last, hlast⟩ := h.exists_last
  obtain ⟨first', hfirst'⟩ := h'.exists_first
  obtain ⟨last', hlast'⟩ := h'.exists_last
  have hbegin := h.start first hfirst
  have hend := h.stop last hlast
  have hbegin' := h'.start first' hfirst'
  have hend' := h'.stop last' hlast'
  have hlexed := h.lexed
  have hlexed' := h'.lexed
  rw [← htext, hpre] at hbegin
  rw [← htext, hstop] at hend
  rw [← htext', hpre'] at hbegin'
  rw [← htext', hstop'] at hend'
  rw [← htext] at hlexed
  rw [← htext'] at hlexed'
  obtain rfl := Option.some.inj (hlexed.symm.trans hlexed')
  rcases h.isRun.eq_or_apart h'.isRun with rfl | ⟨front, behind, htokens, hplace⟩
  · left
    obtain rfl := Option.some.inj (hfirst.symm.trans hfirst')
    obtain rfl := Option.some.inj (hlast.symm.trans hlast')
    have hstart := hbegin.offset_unique hbegin'
    have hstop := hend.offset_unique hend'
    cases s
    cases t
    exact (Span.mk.injEq ..).mpr ⟨hstart, hstop⟩
  · right
    have hpairs := (Token.Lexed.ofLex hlexed).runs.pairwise
    rw [show (Token.Lexed.ofLex hlexed).tokens = _ from htokens] at hpairs
    obtain ⟨-, -, hcross⟩ := List.pairwise_append.1 hpairs
    rcases hplace with ⟨hfront, hbehind⟩ | ⟨hfront, hbehind⟩
    · have hle := hcross _ (hfront _ (List.mem_of_getLast? hlast)) _
        (hbehind _ (List.mem_of_head? hfirst'))
      exact .inl (hend.le_of_le hbegin' hle)
    · have hle := hcross _ (hfront _ (List.mem_of_getLast? hlast')) _
        (hbehind _ (List.mem_of_head? hfirst))
      exact .inr (hend'.le_of_le hbegin hle)

/-- Of two fixes, the literal of the one that is made first ends before the other begins. -/
theorem Fix.Rewrites.stop_le {f g : Fix} {s t : Span} (hf : f.Rewrites policy text calls s)
    (hg : g.Rewrites policy text calls t) (hseparated : f.Separated g) : s.stop ≤ t.start := by
  have hdisjoint := hf.disjoint hcalls hg
  obtain ⟨-, c, hc, a, ha, rfl, -, hmade⟩ := hf
  obtain ⟨-, c', hc', b, hb, rfl, -, hmade'⟩ := hg
  have hproper := f.span.start_le_stop
  have hproper' := g.span.start_le_stop
  have hlt : f.span.stop < g.span.start := hseparated
  rcases hdisjoint with hsame | hbefore | hbehind
  · -- The fixes would be the same.
    have hsource : b.source = a.source := by
      rw [(source_of_collectCalls hcalls hc ha).1, (source_of_collectCalls hcalls hc' hb).1, hsame]
    obtain rfl := Option.some.inj ((hmade.congr hsame.symm hsource).unique hmade')
    omega
  · exact hbefore
  · have := hmade.within.1
    have := hmade'.within.2
    omega

end Steps

/-! ## One literal after another -/

namespace Text.Rewritten

variable {R S : Nat → Nat → Prop} {spans : List Span} {text' text'' : Text}
  {calls calls' calls'' : List Call} {s : Span}

/-- Nothing is written anew. -/
theorem refl (hcalls : collectCalls text file = .ok calls) :
    Text.Rewritten Eq [] d file text text calls calls where
  inStep := by
    rintro i _ j _ rfl rfl
    exact Iff.rfl
  inField := by
    rintro s s' ⟨hstart, hstop⟩ hfield
    obtain rfl : s = s' := by
      cases s
      cases s'
      exact (Span.mk.injEq ..).mpr ⟨hstart, hstop⟩
    exact hfield
  recorded := hcalls
  edited := by
    refine List.forall₂_same.2 fun c _ => ⟨rfl, ⟨rfl, rfl⟩, List.forall₂_same.2 fun a _ => ?_⟩
    exact ⟨⟨rfl, rfl⟩, by simp⟩

/-- One more literal is written anew, where nothing has moved. -/
theorem trans (h : Text.Rewritten R spans d file text text' calls calls')
    (h' : Text.Rewritten S [s] d file text' text'' calls' calls'') (hs : s.Maps R s) :
    Text.Rewritten (Relation.Comp R S) (s :: spans) d file text text'' calls calls'' where
  inStep := by
    rintro i i' j j' ⟨k, hik, hk⟩ ⟨l, hjl, hl⟩
    exact (h.inStep hik hjl).trans (h'.inStep hk hl)
  inField := by
    rintro t t' ⟨⟨i, hi, hi'⟩, ⟨j, hj, hj'⟩⟩ hfield
    have hle : i ≤ j := by
      have := h.inStep hj hi
      have := t.start_le_stop
      omega
    have hmiddle : (Span.mk i j hle).InField text' := h'.inField ⟨hi', hj'⟩ hfield
    exact h.inField ⟨hi, hj⟩ hmiddle
  recorded := h'.recorded
  edited := by
    refine Rewriting.forall₂_comp (fun c c' c'' hc hc' => ?_) h.edited h'.edited
    refine ⟨hc'.name.trans hc.name, ⟨⟨_, hc.span.start, hc'.span.start⟩,
      ⟨_, hc.span.stop, hc'.span.stop⟩⟩, ?_⟩
    refine Rewriting.forall₂_comp (fun a a' a'' ha ha' => ?_) hc.arguments hc'.arguments
    refine ⟨⟨⟨_, ha.span.start, ha'.span.start⟩, ⟨_, ha.span.stop, ha'.span.stop⟩⟩, ?_⟩
    have hsame : a'.span = s ↔ a.span = s := by
      have hstart := h.inStep.eq_iff ha.span.start hs.start
      have hstop := h.inStep.eq_iff ha.span.stop hs.stop
      obtain ⟨_, _, _⟩ := s
      obtain ⟨_, ⟨_, _, _⟩, _, _⟩ := a
      obtain ⟨_, ⟨_, _, _⟩, _, _⟩ := a'
      simp only [Span.mk.injEq]
      exact and_congr hstart.symm hstop.symm
    rw [ha'.literal, ha.literal, Option.map_map]
    congr 1
    funext v
    simp only [Function.comp_apply, hsame, List.mem_cons]
    by_cases hspan : a.span = s <;> simp [hspan]

end Text.Rewritten

theorem steady_shifts {start stop stop' k : Nat} (h : start < stop) (h' : start < stop')
    (hk : k ≤ start) : Steady k (Shifts start stop stop') := by
  intro i i' hi hle
  unfold Shifts at hi
  omega

theorem Steady.comp {k : Nat} {R S : Nat → Nat → Prop} (h : Steady k R) (h' : Steady k S) :
    Steady k (Relation.Comp R S) := by
  rintro i i' ⟨j, hij, hj⟩ hle
  have hfirst := h hij
  have hsecond := h' hj
  omega

/-- A literal that stands in front of all that has been written anew may be written anew, too. -/
theorem Fix.Rewrites.kept {R : Nat → Nat → Prop} {spans : List Span} {text' : Text}
    {calls calls' : List Call} (hcalls : collectCalls text file = .ok calls)
    (hrewritten : Text.Rewritten R spans d file text text' calls calls') {f : Fix} {s : Span}
    (h : f.Rewrites policy text calls s) (hsteady : Steady s.stop R)
    (htake : text'.take s.stop = text.take s.stop) :
    f.Rewrites policy text' calls' s ∧ s.Maps R s := by
  obtain ⟨hfield, c, hc, a, ha, rfl, hliteral, hmade⟩ := h
  obtain ⟨c', hc', hedited⟩ := Node.exists_mem_of_forall₂ hrewritten.edited.flip hc
  obtain ⟨a', ha', hargument⟩ := Node.exists_mem_of_forall₂ hedited.arguments.flip ha
  have hspan : a'.span = a.span := hsteady.span_eq hargument.span (Nat.le_refl _)
  have hmaps : a.span.Maps R a.span := by
    have hmaps := hargument.span
    rw [hspan] at hmaps
    exact hmaps
  have hslice : ∀ t : Text, a.span.slice t = a.span.slice (t.take a.span.stop) := by
    intro t
    rw [Span.slice, Span.slice, List.drop_take, List.take_take, Span.length, Nat.min_self]
  have hsource : a'.source = a.source := by
    rw [(source_of_collectCalls hrewritten.recorded hc' ha').1,
      (source_of_collectCalls hcalls hc ha).1, hspan, hslice text', htake, ← hslice]
  have hfield' : ¬ a.span.InField text' := fun hin => hfield (hrewritten.inField hmaps hin)
  refine ⟨⟨hfield', c', hc', a', ha', hspan, ?_, ?_⟩, hmaps⟩
  · rw [Argument.isLiteral_eq_isSome, hargument.literal, Option.isSome_map,
      ← Argument.isLiteral_eq_isSome]
    exact hliteral
  · exact hmade.congr hspan hsource

/-- Fixes that each write a literal anew, carried out from the last to the first. -/
theorem rewritten_of_fixes (honly : policy.allowed = [d]) (hbare : Bare d) {calls : List Call}
    (hcalls : collectCalls text file = .ok calls) {fixes : List Fix} {spans : List Span}
    (hseparated : fixes.Pairwise Fix.Separated)
    (h : List.Forall₂ (Fix.Rewrites policy text calls) fixes spans) :
    ∃ R calls',
      Text.Rewritten R spans d file text (fixes.foldr Fix.applyTo text) calls calls' ∧
        ∀ k, (∀ s ∈ spans, k ≤ s.start) →
          Steady k R ∧ (fixes.foldr Fix.applyTo text).take k = text.take k := by
  induction h with
  | nil => exact ⟨Eq, calls, .refl hcalls, fun k _ => ⟨fun _ _ h _ => h.symm, rfl⟩⟩
  | @cons f s fixes spans hf hrest ih =>
    obtain ⟨hfirst, hseparated⟩ := List.pairwise_cons.1 hseparated
    obtain ⟨R, calls', hrewritten, hkept⟩ := ih hseparated
    have hbehind : ∀ t ∈ spans, s.stop ≤ t.start := by
      intro t ht
      obtain ⟨g, hg, hgt⟩ := Node.exists_mem_of_forall₂ hrest ht
      exact hf.stop_le hcalls hgt (hfirst g hg)
    obtain ⟨hsteady, htake⟩ := hkept s.stop hbehind
    obtain ⟨hf', hs⟩ := hf.kept hcalls hrewritten hsteady htake
    obtain ⟨stop', calls'', hlt, hlt', htake', hrewritten'⟩ :=
      hf'.rewritten hrewritten.recorded honly hbare
    refine ⟨_, calls'', hrewritten.trans hrewritten' hs, fun k hk => ?_⟩
    obtain ⟨hk, hk'⟩ := List.forall_mem_cons.1 hk
    obtain ⟨hsteady, htake⟩ := hkept k hk'
    refine ⟨hsteady.comp (steady_shifts hlt hlt' hk), ?_⟩
    have htake'' := congrArg (List.take k) htake'
    rw [List.take_take, List.take_take, Nat.min_eq_left hk] at htake''
    exact htake''.trans htake

end TextDomain
