import TextDomain.Proofs.Rewriting.Tree
import TextDomain.Proofs.Source.Traversal

/-!
# The calls of a source with a literal written anew

What the linter records of a call are offsets, names and values. When a literal is written anew,
offsets in front of it stay and those behind it are shifted (`Shifts`), which keeps their order
(`InStep`). So the calls are recorded in the same order, and each is what it was, but for the
value of the literal (`Call.Edited`).

## Main results

* `collectCalls_eq_ok_iff` — the calls of a source are the records of its tree, in order.
* `exists_original` — a literal argument outside of replacement fields is a run of plain tokens.
* `Original.collectCalls_rewritten` — the calls of the new source.
-/

namespace TextDomain

open Token (Lexed)
open Text (Cut)

variable {text file : Text}

/-! ## Records of sites -/

namespace Node

theorem literal?_of_argument {index : SourceIndex} {n : Node} {a : Argument}
    (h : argument index n = .ok a) : a.literal? = n.literal? := by
  obtain ⟨⟨start, stop, location⟩, -, h⟩ := bind_eq_ok_iff.1 h
  dsimp only at h
  cases hliteral : n.literal? with
  | none =>
    rw [hliteral] at h
    obtain ⟨span, -, h⟩ := bind_eq_ok_iff.1 h
    obtain rfl := Except.ok.inj h
    rfl
  | some value =>
    rw [hliteral] at h
    obtain ⟨span, -, h⟩ := bind_eq_ok_iff.1 h
    obtain rfl := Except.ok.inj h
    rfl

/-- The record of a call answers to the site of the call. -/
structure CallSite.RecordedAs (text : Text) (c : CallSite) (call : Call) : Prop where
  name : call.functionName = c.callee.name?
  spans : c.extent.Spans text call.span.start call.span.stop
  arguments : List.Forall₂ (fun n a => Node.Recorded text n a ∧ a.literal? = n.literal?)
    c.arguments call.arguments

theorem CallSite.Placed.recordedAs {c : CallSite} {call : Call} (h : c.Placed text)
    (hrecord : c.record (.ofText text file) = .ok call) : c.RecordedAs text call := by
  have harguments := mapM_eq_ok_iff.1 (arguments_of_record hrecord)
  obtain ⟨⟨start, stop, location⟩, hspan, hrecord⟩ := bind_eq_ok_iff.1 hrecord
  obtain ⟨arguments, -, hbuild⟩ := bind_eq_ok_iff.1 hrecord
  obtain ⟨hname, -, hoffsets, -⟩ := Call.build_ok_iff.1 hbuild
  obtain ⟨i, j, hspans⟩ := h.extent
  obtain ⟨_, hfound⟩ := span_of_spans hspans file "Call".toList
  have hsame : (start, stop, location) = (i, j, _) := Except.ok.inj (hspan.symm.trans hfound)
  obtain ⟨rfl, rfl, -⟩ : start = i ∧ stop = j ∧ _ := by simpa using hsame
  have hends : start = call.span.start ∧ stop = call.span.stop := by
    simp only [Span.offsets, List.cons.injEq, and_true] at hoffsets
    omega
  refine ⟨hname, hends.1 ▸ hends.2 ▸ hspans, ?_⟩
  have hboth := (List.forall₂_and_left ..).2 ⟨h.arguments, harguments⟩
  refine hboth.imp fun n a hn => ?_
  obtain ⟨a', ha', hrecorded⟩ := Node.exists_recorded hn.1 file
  obtain rfl : a' = a := Except.ok.inj (ha'.symm.trans hn.2)
  exact ⟨hrecorded, literal?_of_argument hn.2⟩

end Node

/-- The records of a source are those of its tree. -/
theorem collectCalls_eq_ok_iff {calls : List Call} :
    collectCalls text file = .ok calls ↔ '\x00' ∉ text ∧
      ∃ n, Node.ofSource? text = some n ∧ n.records (.ofText text file) = .ok calls := by
  have hnull : text.contains (Char.ofNat 0) = true ↔ '\x00' ∈ text := List.contains_iff_mem
  unfold collectCalls
  by_cases hmem : '\x00' ∈ text
  · simp [hmem]
  · rw [if_neg fun h => hmem (hnull.1 h)]
    cases hn : Node.ofSource? text with
    | none => simp
    | some n =>
      cases hcalls : n.records (.ofText text file) with
      | error e => simp [hcalls]
      | ok found => simp [hcalls, hmem]

/-- Records that correspond are in the same order if the correspondence keeps the order. -/
theorem forall₂_sortedCalls {R : Call → Call → Prop}
    (hR : ∀ a a' b b', R a a' → R b b' → a'.precedes b' = a.precedes b) {calls calls' : List Call}
    (h : List.Forall₂ R calls calls') :
    List.Forall₂ R (sortedCalls calls) (sortedCalls calls') := by
  -- The lists are those of the first and of the second ones of pairs.
  obtain ⟨pairs, rfl, rfl⟩ : ∃ pairs : List {p : Call × Call // R p.1 p.2},
      pairs.map (·.1.1) = calls ∧ pairs.map (·.1.2) = calls' := by
    induction h with
    | nil => exact ⟨[], rfl, rfl⟩
    | cons hr _ ih =>
      obtain ⟨pairs, rfl, rfl⟩ := ih
      exact ⟨⟨(_, _), hr⟩ :: pairs, rfl, rfl⟩
  have hfirst : sortedCalls (pairs.map (·.1.1)) =
      (sortBy (fun p q => p.1.1.precedes q.1.1) pairs).map (·.1.1) :=
    sortBy_map (fun _ _ => rfl) pairs
  have hsecond : sortedCalls (pairs.map (·.1.2)) =
      (sortBy (fun p q => p.1.1.precedes q.1.1) pairs).map (·.1.2) :=
    sortBy_map (fun p q => hR _ _ _ _ p.2 q.2) pairs
  rw [hfirst, hsecond, List.forall₂_map_left_iff, List.forall₂_map_right_iff]
  exact List.forall₂_same.2 fun p _ => p.2

/-! ## Edited calls -/

/-- Offsets come in the order of those that they correspond to. -/
def InStep (R : Nat → Nat → Prop) : Prop :=
  ∀ ⦃i i' j j' : Nat⦄, R i i' → R j j' → (i < j ↔ i' < j')

/-- Both ends of the spans correspond. -/
structure Span.Maps (R : Nat → Nat → Prop) (s s' : Span) : Prop where
  start : R s.start s'.start
  stop : R s.stop s'.stop

/-- An argument and what has become of it when the literals at some spans got another value. -/
structure Argument.Edited (R : Nat → Nat → Prop) (spans : List Span) (value : Text)
    (a a' : Argument) : Prop where
  span : a.span.Maps R a'.span
  literal : a'.literal? = a.literal?.map fun v => if a.span ∈ spans then value else v

/-- A call and what has become of it. -/
structure Call.Edited (R : Nat → Nat → Prop) (spans : List Span) (value : Text)
    (c c' : Call) : Prop where
  name : c'.functionName = c.functionName
  span : c.span.Maps R c'.span
  arguments : List.Forall₂ (Argument.Edited R spans value) c.arguments c'.arguments

theorem InStep.eq_iff {R : Nat → Nat → Prop} (h : InStep R) {i i' j j' : Nat} (hi : R i i')
    (hj : R j j') : i = j ↔ i' = j' := by
  have hlt := h hi hj
  have hgt := h hj hi
  omega

/-- The calls stay in order. -/
theorem Call.Edited.precedes_eq {R : Nat → Nat → Prop} (hR : InStep R) {spans : List Span}
    {value : Text} {a a' b b' : Call} (ha : a.Edited R spans value a')
    (hb : b.Edited R spans value b') : a'.precedes b' = a.precedes b := by
  have hlt := hR ha.span.start hb.span.start
  have heq := hR.eq_iff ha.span.start hb.span.start
  have hstop := hR ha.span.stop hb.span.stop
  rw [Bool.eq_iff_iff, Call.precedes_iff, Call.precedes_iff]
  omega

/-- `i` has become `i'` when what stands between two offsets got another end: what is in front
of it stays, and what is behind it moves with its end. -/
def Shifts (start stop stop' i i' : Nat) : Prop :=
  i ≤ start ∧ i' = i ∨ stop ≤ i ∧ i' + stop = i + stop'

theorem inStep_shifts {start stop stop' : Nat} (h : start < stop) (h' : start < stop') :
    InStep (Shifts start stop stop') := by
  intro i i' j j' hi hj
  unfold Shifts at hi hj
  omega

/-- The span stands in a replacement field: a string token with fields begins in front of it
and does not end in it. -/
def Span.InField (text : Text) (s : Span) : Prop :=
  ∃ tokens ∈ Token.lex? text.unifyTerminators, ∃ t ∈ tokens, Rewriting.IsFormattedToken t ∧
    ∃ i j, t.extent.Spans text i j ∧ i < s.start ∧ s.stop ≤ j

namespace Rewriting

variable {pre lit post new value : Text} {tokens run : List Token}

/-- A literal argument outside of replacement fields is a run of plain string tokens. -/
theorem exists_original {calls : List Call}
    (hcalls : collectCalls (pre ++ (lit ++ post)) file = .ok calls) {c : Call} (hc : c ∈ calls)
    {a : Argument} (ha : a ∈ c.arguments) (hliteral : a.isLiteral = true)
    (hstart : a.span.start = pre.length) (hstop : a.span.stop = (pre ++ lit).length)
    (hfield : ¬ a.span.InField (pre ++ (lit ++ post))) :
    ∃ tokens run, Original pre lit post tokens run := by
  obtain ⟨-, n, hn, hrecords⟩ := collectCalls_eq_ok_iff.1 hcalls
  obtain ⟨found, hfound, rfl⟩ := Node.records_eq_ok_iff.1 hrecords
  obtain ⟨site, hsite, hrecord⟩ := Node.exists_mem_of_forall₂ hfound (mem_sortedCalls.1 hc)
  have hplaced := Node.placed_of_ofSource? hn site hsite
  obtain ⟨node, hnode, hrecorded, hsame⟩ :=
    Node.exists_mem_of_forall₂ (hplaced.recordedAs hrecord).arguments ha
  have hliteral : node.literal?.isSome = true := hrecorded.isLiteral ▸ hliteral
  have hspans := hrecorded.spans
  -- Read once more, the literal is found where a literal may stand.
  obtain ⟨tokens, hlexed, hn⟩ := Option.bind_eq_some_iff.1 hn
  obtain ⟨⟨m, s⟩, hfile, heq⟩ := Option.bind_eq_some_iff.1 hn
  obtain rfl : m = n := Option.some.inj heq
  obtain ⟨m', s', hfile', hsites⟩ := file_reread (l := .ofLex hlexed) (Lexed.costs_lt hlexed)
    (Lexed.costs_lt hlexed) (Position.le_after .origin _) hfile
  obtain rfl : m = m' := congrArg Prod.fst (Option.some.inj (hfile.symm.trans hfile'))
  have hspot : Spot tokens node.extent :=
    (List.forall₂_same.1 (List.forall₂_same.1 hsites site hsite).arguments node hnode).spot hliteral
  cases hspot with
  | whole run plain first last extent =>
    rw [extent] at hspans
    refine ⟨tokens, _, ?_, hlexed, run, plain, ?_, ?_⟩
    · have hlong := hplaced.literals node hnode hliteral _ _ hrecorded.spans
      rw [hstart, hstop, List.length_append] at hlong
      rintro rfl
      rw [List.length_nil] at hlong
      omega
    · intro t ht
      obtain rfl := Option.some.inj (ht.symm.trans first)
      exact hstart ▸ hspans.start
    · intro t ht
      obtain rfl := Option.some.inj (ht.symm.trans last)
      exact hstop ▸ hspans.stop
  | @enclosed t mem formatted start stop =>
    obtain ⟨-, -, i, j, hfield'⟩ := Lexed.exists_spans_of_string hlexed mem formatted.1
    exact absurd ⟨tokens, hlexed, t, mem, formatted, i, j, hfield',
      hfield'.start.lt_of_lt hspans.start start, hspans.stop.le_of_le hfield'.stop stop⟩ hfield

namespace Original

variable (h : Original pre lit post tokens run)

include h

/-- What is written anew does not end where it begins. -/
theorem length_lt (hfits : Literal.FitsFor lit new value) :
    pre.length < (pre ++ lit).length ∧ pre.length < (pre ++ new).length := by
  have hlit := List.length_pos_iff.2 h.ne_nil
  have hnew := List.length_pos_iff.2 (hfits.cuts pre post).1
  simp only [List.length_append]
  omega

/-- Where positions stand when the literal is written anew. -/
theorem shifts (hfits : Literal.FitsFor lit new value) {p p' : Position} {i i' : Nat}
    (hmaps : (ofTexts pre lit new value tokens).Maps p p')
    (hp : (Lexed.ofLex h.lexed).Inside p)
    (hi : p.StandsAt (pre ++ (lit ++ post)) i) (hi' : p'.StandsAt (pre ++ (new ++ post)) i') :
    Shifts pre.length (pre ++ lit).length (pre ++ new).length i i' := by
  obtain ⟨first, hfirst⟩ := h.exists_first
  obtain ⟨last, hlast⟩ := h.exists_last
  have hcut := (h.cut_start hfirst).2
  have hcut' := (h.cut_stop hlast).2
  obtain ⟨-, -, hnew, hnew'⟩ := hfits.cuts pre post
  obtain ⟨v, hv, rfl⟩ := Lexed.prefix_of_inside hp
  rcases hmaps with ⟨hle, rfl⟩ | ⟨hle, rfl⟩
  · have hfront : v <+: Text.unifyTerminators pre := by
      refine Position.prefix_of_after_le hv ?_ hle
      rw [Text.unifyTerminators_append hcut]
      exact List.prefix_append _ _
    obtain ⟨k, hk, hstands⟩ := Position.exists_standsAt_front hfront
    obtain rfl := hi.offset_unique (hstands _ hcut)
    exact .inl ⟨hk, hi'.offset_unique (hstands _ hnew)⟩
  · obtain ⟨v, rfl, hbehind⟩ : ∃ v', v = Text.unifyTerminators (pre ++ lit) ++ v' ∧
        v' <+: Text.unifyTerminators post := by
      rw [← List.append_assoc, Text.unifyTerminators_append hcut'] at hv
      obtain ⟨v', rfl⟩ := Position.prefix_of_after_le (List.prefix_append _ _) hv hle
      exact ⟨v', rfl, (List.prefix_append_right_inj _).1 hv⟩
    obtain ⟨k, hstands⟩ := Position.exists_standsAt_behind hbehind
    have hold := hstands _ hcut'
    have hnow := hstands _ hnew'
    rw [List.append_assoc] at hold hnow
    have hmoved : (ofTexts pre lit new value tokens).shift
        (Position.origin.after (Text.unifyTerminators (pre ++ lit) ++ v)) =
          Position.origin.after (Text.unifyTerminators (pre ++ new) ++ v) := by
      rw [Position.after_append, Position.after_append]
      exact (shift_after (le_refl _) v).trans (congrArg (·.after v) shift_oldStop)
    obtain rfl := hi.offset_unique hold
    obtain rfl := (hmoved ▸ hi').offset_unique hnow
    exact .inr ⟨Nat.le_add_right .., by omega⟩

/-- No span has come into a replacement field. -/
theorem inField_of_rewritten (hfits : Literal.FitsFor lit new value) {s s' : Span}
    (hs : s.Maps (Shifts pre.length (pre ++ lit).length (pre ++ new).length) s')
    (hfield : s'.InField (pre ++ (new ++ post))) : s.InField (pre ++ (lit ++ post)) := by
  obtain ⟨before, after, t, p, htokens, hparts, rfl, hpiece, hplain, -, hlex⟩ :=
    h.lex?_rewritten hfits
  obtain ⟨tokens', hlexed', u, hu, hformatted, i', j', hspans', hbegin, hend⟩ := hfield
  obtain rfl := Option.some.inj (hlex.symm.trans hlexed')
  rcases hparts.exists_of_mem (l := .ofLex h.lexed) htokens hu with rfl | ⟨v, hv, hmaps⟩
  · -- The new literal has no fields.
    obtain ⟨-, q, r, hsplit, hfields⟩ := hformatted
    obtain ⟨rfl, -⟩ := (Prod.mk.injEq ..).mp (Option.some.inj (hpiece.symm.trans hsplit))
    rw [hplain.2] at hfields
    cases hfields
  · have hformatted' : IsFormattedToken v :=
      ⟨hmaps.kind.trans hformatted.1, hmaps.text.symm ▸ hformatted.2⟩
    obtain ⟨hstart, hstop, i, j, hspans⟩ := Lexed.exists_spans_of_string h.lexed hv hformatted'.1
    have hi := h.shifts hfits hmaps.start hstart hspans.start hspans'.start
    have hj := h.shifts hfits hmaps.stop hstop hspans.stop hspans'.stop
    obtain ⟨hlit, hnew⟩ := h.length_lt hfits
    have hstep := inStep_shifts hlit hnew
    have hlast := hstep hj hs.stop
    exact ⟨tokens, h.lexed, v, hv, hformatted', i, j, hspans, (hstep hi hs.start).2 hbegin,
      by omega⟩

/-- The record of an argument when the literal is written anew. -/
theorem argument_edited (hfits : Literal.FitsFor lit new value) {s : Span}
    (hstart : s.start = pre.length) (hstop : s.stop = (pre ++ lit).length) {n n' : Node}
    {a a' : Argument} (hmaps : (ofTexts pre lit new value tokens).ArgumentMaps n n')
    (hbounds : (Lexed.ofLex h.lexed).Bounds n)
    (ha : Node.Recorded (pre ++ (lit ++ post)) n a ∧ a.literal? = n.literal?)
    (ha' : Node.Recorded (pre ++ (new ++ post)) n' a' ∧ a'.literal? = n'.literal?) :
    a.Edited (Shifts s.start s.stop (pre ++ new).length) [s] value a' where
  span := ⟨hstart ▸ hstop ▸
      h.shifts hfits hmaps.extent.start hbounds.start ha.1.spans.start ha'.1.spans.start,
    hstart ▸ hstop ▸
      h.shifts hfits hmaps.extent.stop hbounds.stop ha.1.spans.stop ha'.1.spans.stop⟩
  literal := by
    obtain ⟨first, hfirst⟩ := h.exists_first
    obtain ⟨last, hlast⟩ := h.exists_last
    -- The literal is told by its place, in positions or in offsets.
    have hsame : (n.extent.start = (ofTexts pre lit new value tokens).start ∧
        n.extent.stop = (ofTexts pre lit new value tokens).oldStop) ↔ a.span ∈ [s] := by
      have hbegin := h.start first hfirst
      have hend := h.stop last hlast
      rw [(h.cut_start hfirst).1, ← hstart] at hbegin
      rw [(h.cut_stop hlast).1, ← hstop] at hend
      refine (and_congr (ha.1.spans.start.eq_iff hbegin) (ha.1.spans.stop.eq_iff hend)).trans ?_
      rw [List.mem_singleton]
      obtain ⟨_, _, _⟩ := s
      obtain ⟨_, ⟨_, _, _⟩, _, _⟩ := a
      exact (Span.mk.injEq ..).symm.to_iff
    rw [ha'.2, hmaps.literal, ha.2, literalNow]
    simp only [hsame]
    rfl

/-- The record of a call when the literal is written anew. -/
theorem call_edited (hfits : Literal.FitsFor lit new value) {s : Span}
    (hstart : s.start = pre.length) (hstop : s.stop = (pre ++ lit).length)
    {c c' : Node.CallSite} {r r' : Call}
    (hmaps : (ofTexts pre lit new value tokens).SiteMaps c c')
    (hbounds : (Lexed.ofLex h.lexed).BoundsCall c)
    (hr : c.RecordedAs (pre ++ (lit ++ post)) r) (hr' : c'.RecordedAs (pre ++ (new ++ post)) r') :
    r.Edited (Shifts s.start s.stop (pre ++ new).length) [s] value r' where
  name := by rw [hr'.name, ← hmaps.name, hr.name]
  span := ⟨hstart ▸ hstop ▸
      h.shifts hfits hmaps.extent.start hbounds.start hr.spans.start hr'.spans.start,
    hstart ▸ hstop ▸
      h.shifts hfits hmaps.extent.stop hbounds.stop hr.spans.stop hr'.spans.stop⟩
  arguments := by
    have hold := (List.forall₂_and_left ..).2 ⟨hbounds.arguments, hr.arguments⟩
    refine forall₂_comp (fun a n a' ha hrest => hrest a ha) hold.flip
      (forall₂_comp (T := fun n a' => ∀ a, _ → Argument.Edited _ [s] value a a')
        (fun n n' a' hn ha' a ha => ?_) hmaps.arguments hr'.arguments)
    exact h.argument_edited hfits hstart hstop hn ha.1 ha.2 ha'

/-- The calls of the source with the literal written anew. -/
theorem collectCalls_rewritten (hfits : Literal.FitsFor lit new value) {s : Span}
    (hstart : s.start = pre.length) (hstop : s.stop = (pre ++ lit).length) {calls : List Call}
    (hcalls : collectCalls (pre ++ (lit ++ post)) file = .ok calls) :
    ∃ calls', collectCalls (pre ++ (new ++ post)) file = .ok calls' ∧
      List.Forall₂ (Call.Edited (Shifts s.start s.stop (pre ++ new).length) [s] value)
        calls calls' := by
  obtain ⟨hnull, n, hn, hrecords⟩ := collectCalls_eq_ok_iff.1 hcalls
  obtain ⟨found, hfound, rfl⟩ := Node.records_eq_ok_iff.1 hrecords
  obtain ⟨n', hn', hsites⟩ := h.ofSource?_rewritten hfits hn
  obtain ⟨calls', hcalls', -⟩ := Node.records_of_placed (Node.placed_of_ofSource? hn') file
  obtain ⟨found', hfound', rfl⟩ := Node.records_eq_ok_iff.1 hcalls'
  have hnull' : '\x00' ∉ pre ++ (new ++ post) := by
    have hnew := hfits.denotes.1
    simp only [List.mem_append, not_or] at hnull ⊢
    exact ⟨hnull.1, hnew, hnull.2.2⟩
  refine ⟨_, collectCalls_eq_ok_iff.2 ⟨hnull', n', hn', hcalls'⟩, ?_⟩
  obtain ⟨hlit, hnew⟩ := h.length_lt hfits
  have hstep : InStep (Shifts s.start s.stop (pre ++ new).length) :=
    inStep_shifts (by omega) (by omega)
  refine forall₂_sortedCalls (fun a a' b b' ha hb => ha.precedes_eq hstep hb) ?_
  have hbounds := Lexed.holds_of_ofSource? h.lexed hn
  have hold := (List.forall₂_and_left ..).2 ⟨fun c hc =>
    (⟨hbounds.calls c hc, Node.placed_of_ofSource? hn c hc⟩ : _ ∧ _), hfound⟩
  have hnew := (List.forall₂_and_left ..).2 ⟨Node.placed_of_ofSource? hn', hfound'⟩
  refine forall₂_comp (fun r c r' hr hrest => hrest r hr) hold.flip
    (forall₂_comp (T := fun c r' => ∀ r, _ → Call.Edited _ [s] value r r')
      (fun c c' r' hc hr' r hr => ?_) hsites hnew)
  exact h.call_edited hfits hstart hstop hc hr.1.1 (hr.1.2.recordedAs hr.2)
    (hr'.1.recordedAs hr'.2)

end Original

end Rewriting

end TextDomain
