import TextDomain.Proofs.Literal.Reading
import TextDomain.Proofs.Rule.NoRoom

/-!
# Where the fix of a call lies

A call that was read from a text keeps its arguments apart and inside itself,
and its string literals have the text of the source between their ends.
`Call.WellPlaced` says just that. `Call.Spaced` is the part of it for which
checking cannot fail: the markers of a literal fit into its range, and there is
an argument in front of every domain.

`Call.FixAt` says by the ends of arguments where each kind of fix is made: an
insertion at the end of the last argument, a replacement inside the domain, and
a removal from the end of the argument before the domain to the end of the
domain. Every argument but the domain ends at or before the beginning of the
fix, or begins behind its end.

Every fix thus lies in one gap of its call, with nothing in it but the domain.
`AttachedFix.exists_gap` is that statement.

## Main results

* `Call.Spaced.checkCall_ok` — checking a call whose arguments lie apart does
  not fail.
* `AttachedFix.fixAt` — a fix is made where its kind says.
* `Call.FixAt.avoids` — a fix avoids all arguments but the domain.
* `AttachedFix.exists_gap` — a fix lies in one gap of its call, with at least
  one character of the call on either side.
-/

namespace TextDomain

/-- The arguments of a call lie apart from each other behind its beginning and
not behind its end; a string literal has at least two characters, ends before
the call does, and has the text between its ends for a source. -/
structure Call.WellPlaced (text : Text) (c : Call) : Prop where
  inside : c.span.stop ≤ text.length
  behind_start : ∀ a ∈ c.arguments, c.span.start < a.span.start
  not_behind_stop : ∀ a ∈ c.arguments, a.span.stop ≤ c.span.stop
  apart : c.arguments.Pairwise fun a b => a.span.stop < b.span.start
  literal_before_stop : ∀ a ∈ c.arguments, a.isLiteral = true → a.span.stop < c.span.stop
  literal_length : ∀ a ∈ c.arguments, a.isLiteral = true → a.span.start + 2 ≤ a.span.stop
  literal_source : ∀ a ∈ c.arguments, a.isLiteral = true → a.source = a.span.slice text

/-! ## Markers -/

/-- The two markers of a literal do not overlap. -/
theorem Literal.markersOf?_le_length {source : Text} {m : Literal.Markers}
    (h : Literal.markersOf? source = some m) : m.opening + m.closing ≤ source.length := by
  obtain ⟨letters, quote, body, hreads, rfl⟩ := Literal.markersOf?_eq_some_iff.1 h
  have hlength := hreads.length_eq
  show letters.length + quote.length + quote.length ≤ source.length
  omega

/-- The markers of a literal with at least two characters fit into it. -/
theorem Literal.markers?_le_length {source : Text} {m : Literal.Markers}
    (h : Literal.markers? source = some m) (htwo : 2 ≤ source.length) :
    m.opening + m.closing ≤ source.length := by
  unfold Literal.markers? at h
  split at h
  next =>
    obtain rfl := Option.some.inj h
    exact htwo
  next => exact Literal.markersOf?_le_length h

/-! ## Making a fix -/

/-- A replacement is made inside the domain. -/
theorem within_of_replacementFix {args : List Argument} {arg : Argument} {policy : Policy}
    {fix : Fix} (h : replacementFix (.ofArgument args arg) policy = .ok (some fix)) :
    fix.kind = .replace ∧ arg.span.start ≤ fix.span.start ∧ fix.span.stop ≤ arg.span.stop := by
  cases replacementFix_eq_ok_iff.1 h with
  | between only markers start stop =>
    exact ⟨rfl, start ▸ Nat.le_add_right .., stop ▸ Nat.le_add_right ..⟩
  | whole => exact ⟨rfl, Nat.le_refl _, Nat.le_refl _⟩

theorem stop_lt_start_of_adjacent {before after : List Argument} {previous arg : Argument}
    (h : (before ++ previous :: arg :: after).Pairwise fun a b => a.span.stop < b.span.start) :
    previous.span.stop < arg.span.start :=
  (List.pairwise_cons.1 (List.pairwise_append.1 h).2.1).1 arg (List.mem_cons_self ..)

/-- With a gap in front of the domain, its removal begins at the end of the
argument before it. -/
theorem removalFix_of_precedes {before after : List Argument} {previous arg : Argument}
    (h : (before ++ previous :: arg :: after).Pairwise fun a b => a.span.stop < b.span.start) :
    ∃ hle, removalFix (.ofArgument (before ++ previous :: arg :: after) arg) =
      .ok ⟨.delete, ⟨previous.span.stop, arg.span.stop, hle⟩, []⟩ := by
  have hproper := arg.span.start_le_stop
  have hgap := stop_lt_start_of_adjacent h
  have hrest := (List.pairwise_cons.1 (List.pairwise_append.1 h).2.1).2
  -- Neither the domain nor anything behind it ends in front of the domain.
  have hlast : ∀ a ∈ arg :: after, arg.span.start ≤ a.span.stop := by
    refine List.forall_mem_cons.2 ⟨hproper, fun a ha => ?_⟩
    have hlt := (List.pairwise_cons.1 hrest).1 a ha
    have := a.span.start_le_stop
    omega
  exact ⟨by omega, removalFix_eq_ok_iff.2 (.made rfl hgap hlast rfl rfl)⟩

/-! ## Calls with their arguments apart -/

/-- The argument in the domain slot of a gettext function has one before it. -/
theorem Call.exists_previous {c : Call} {arg : Argument} {f : GettextFunction}
    (hf : GettextFunction.ofName? c.functionName = some f)
    (hslot : c.arguments[f.domainIndex.toNat]? = some arg) :
    ∃ before previous after, c.arguments = before ++ previous :: arg :: after ∧
      before.length + 1 = f.domainIndex.toNat := by
  have hone := GettextFunction.one_le_domainIndex hf
  obtain ⟨i, hi⟩ : ∃ i, f.domainIndex.toNat = i + 1 := ⟨f.domainIndex.toNat - 1, by omega⟩
  rw [hi] at hslot
  obtain ⟨hlt, hget⟩ := List.getElem?_eq_some_iff.1 hslot
  refine ⟨c.arguments.take i, c.arguments[i], c.arguments.drop (i + 2), ?_, ?_⟩
  · calc c.arguments = c.arguments.take i ++ c.arguments.drop i := (List.take_append_drop ..).symm
      _ = c.arguments.take i ++ c.arguments[i] :: c.arguments[i + 1] ::
            c.arguments.drop (i + 2) := by
        rw [List.drop_eq_getElem_cons (by omega), List.drop_eq_getElem_cons hlt]
      _ = _ := by rw [hget]
  · rw [List.length_take]
    omega

/-- What checking a call relies on: the arguments lie apart from each other,
and a string literal has at least two characters and a source as long as its
range. -/
structure Call.Spaced (c : Call) : Prop where
  apart : c.arguments.Pairwise fun a b => a.span.stop < b.span.start
  literal_length : ∀ a ∈ c.arguments, a.isLiteral = true → a.span.start + 2 ≤ a.span.stop
  length_source : ∀ a ∈ c.arguments, a.isLiteral = true →
    a.source.length = a.span.stop - a.span.start

/-- In a call whose arguments lie apart there is room for every fix. -/
theorem Call.Spaced.not_noRoom {c : Call} (h : c.Spaced) (policy : Policy) (e : ContractError) :
    ¬ c.NoRoom policy e := by
  intro hroom
  cases hroom with
  | removal callee slot _ _ _ first =>
    obtain ⟨before, previous, after, heq, -⟩ := c.exists_previous callee slot
    have hprevious : previous ∈ c.arguments := by
      rw [heq]
      simp
    have hgap := stop_lt_start_of_adjacent (heq ▸ h.apart)
    exact absurd hgap (Nat.not_lt.2 (first previous hprevious))
  | @replacement f arg value domain m callee slot content _ _ _ markers short =>
    have harg : arg ∈ c.arguments := List.mem_of_getElem? slot
    have hliteral : arg.isLiteral = true := by simp only [Argument.isLiteral, content]
    have htwo := h.literal_length arg harg hliteral
    have hlength := h.length_source arg harg hliteral
    have hfits := Literal.markers?_le_length markers (by omega)
    rw [Span.length] at short
    omega

/-- Checking a call whose arguments lie apart does not fail. -/
theorem Call.Spaced.checkCall_ok {c : Call} (h : c.IsGettext → c.Spaced) (policy : Policy) :
    ∃ d?, checkCall c policy = .ok d? := by
  cases hcheck : checkCall c policy with
  | ok d? => exact ⟨d?, rfl⟩
  | error e =>
    have hroom := checkCall_eq_error_iff.1 hcheck
    exact absurd hroom ((h hroom.isGettext).not_noRoom policy e)

/-! ## Well-placed calls -/

/-- The arguments of a well-placed call lie apart, and its literals are as long
as their ranges. -/
theorem Call.WellPlaced.spaced {text : Text} {c : Call} (h : c.WellPlaced text) : c.Spaced where
  apart := h.apart
  literal_length := h.literal_length
  length_source := by
    intro arg harg hliteral
    have hinside := Nat.le_trans (h.not_behind_stop arg harg) h.inside
    rw [h.literal_source arg harg hliteral, Span.length_slice hinside, Span.length]

/-- Checking a well-placed call does not fail. -/
theorem Call.WellPlaced.checkCall_ok {text : Text} {c : Call}
    (h : c.IsGettext → c.WellPlaced text) (policy : Policy) :
    ∃ d?, checkCall c policy = .ok d? :=
  Call.Spaced.checkCall_ok (fun hgettext => (h hgettext).spaced) policy

/-! ## Where a fix is made -/

/-- `c.FixAt slot fix`: a fix of a call, the domain of which belongs in the slot, is made where
its kind says. -/
inductive Call.FixAt (c : Call) (slot : Nat) : Fix → Prop where
  /-- At the end of the last argument, which ends before the call does. The slot is empty. -/
  | insert {last : Argument} {text : Text} (empty : c.arguments.length ≤ slot)
      (anchor : c.arguments.getLast? = some last) (room : last.span.stop < c.span.stop) :
      c.FixAt slot ⟨.insert, .empty last.span.stop, text⟩
  /-- Inside the domain. -/
  | replace {arg : Argument} {span : Span} {text : Text} (domain : c.arguments[slot]? = some arg)
      (start : arg.span.start ≤ span.start) (stop : span.stop ≤ arg.span.stop) :
      c.FixAt slot ⟨.replace, span, text⟩
  /-- From the end of the argument just before the domain to the end of the domain. -/
  | delete {i : Nat} {previous arg : Argument} {span : Span} (next : slot = i + 1)
      (before : c.arguments[i]? = some previous) (domain : c.arguments[slot]? = some arg)
      (start : span.start = previous.span.stop) (stop : span.stop = arg.span.stop) :
      c.FixAt slot ⟨.delete, span, []⟩

/-- A fix that the rule attaches is made where its kind says. -/
theorem AttachedFix.fixAt {policy : Policy} {c : Call} {fix : Fix}
    (hfix : AttachedFix policy c fix)
    (hapart : c.arguments.Pairwise fun a b => a.span.stop < b.span.start) :
    ∃ f, GettextFunction.ofName? c.functionName = some f ∧ c.FixAt f.domainIndex.toNat fix := by
  cases hfix with
  | @insertion f last domain gettext short _ _ anchor room =>
    have hlast := f.domain_last
    exact ⟨f, gettext, .insert (by omega) anchor room⟩
  | @replacement f arg value fix gettext slot _ _ made =>
    obtain ⟨hkind, hstart, hstop⟩ := within_of_replacementFix made
    obtain ⟨kind, span, text⟩ := fix
    obtain rfl : kind = .replace := hkind
    exact ⟨f, gettext, .replace slot hstart hstop⟩
  | @removal f arg fix gettext slot _ _ made =>
    obtain ⟨before, previous, after, heq, hlength⟩ := c.exists_previous gettext slot
    have hprevious : c.arguments[before.length]? = some previous := by
      rw [heq, List.getElem?_append_right (Nat.le_refl _), Nat.sub_self, List.getElem?_cons_zero]
    rw [heq] at hapart made
    obtain ⟨hle, hmade⟩ := removalFix_of_precedes hapart
    rw [made] at hmade
    obtain rfl := Except.ok.inj hmade
    exact ⟨f, gettext, .delete hlength.symm hprevious slot rfl rfl⟩

namespace Call.FixAt

variable {c : Call} {slot : Nat} {fix : Fix}

/-- A fix ends at or before the end of an argument. -/
theorem exists_stop_le (h : c.FixAt slot fix) : ∃ a ∈ c.arguments, fix.span.stop ≤ a.span.stop := by
  cases h with
  | @insert last _ _ anchor _ => exact ⟨last, List.mem_of_getLast? anchor, Nat.le_refl _⟩
  | @replace arg _ _ domain _ stop => exact ⟨arg, List.mem_of_getElem? domain, stop⟩
  | @delete _ _ arg _ _ _ domain _ stop =>
    exact ⟨arg, List.mem_of_getElem? domain, Nat.le_of_eq stop⟩

/-- Every argument but the one in the slot ends at or before the beginning of the fix, or begins
behind its end. -/
theorem avoids (h : c.FixAt slot fix)
    (hapart : c.arguments.Pairwise fun a b => a.span.stop < b.span.start) {i : Nat} {a : Argument}
    (hi : i ≠ slot) (ha : c.arguments[i]? = some a) :
    a.span.stop ≤ fix.span.start ∨ fix.span.stop < a.span.start := by
  have hbefore : ∀ {i j : Nat} {a b : Argument}, i < j → c.arguments[i]? = some a →
      c.arguments[j]? = some b → a.span.stop < b.span.start := by
    intro i j a b hij ha hb
    obtain ⟨hi, rfl⟩ := List.getElem?_eq_some_iff.1 ha
    obtain ⟨hj, rfl⟩ := List.getElem?_eq_some_iff.1 hb
    exact List.pairwise_iff_getElem.1 hapart i j hi hj hij
  cases h with
  | @insert last _ empty anchor room =>
    rw [List.getLast?_eq_getElem?] at anchor
    have hlt := (List.getElem?_eq_some_iff.1 ha).1
    have := last.span.start_le_stop
    refine .inl ?_
    by_cases hlast : i = c.arguments.length - 1
    · subst hlast
      rw [anchor] at ha
      obtain rfl := Option.some.inj ha
      exact Nat.le_refl _
    · have := hbefore (by omega) ha anchor
      exact Nat.le_trans (Nat.le_of_lt this) last.span.start_le_stop
  | @replace arg _ _ domain start stop =>
    rcases Nat.lt_or_gt_of_ne hi with hlt | hgt
    · have := hbefore hlt ha domain
      exact .inl (Nat.le_trans (Nat.le_of_lt this) start)
    · have := hbefore hgt domain ha
      exact .inr (Nat.lt_of_le_of_lt stop this)
  | @delete k previous arg _ next before domain start stop =>
    rcases Nat.lt_or_gt_of_ne hi with hlt | hgt
    · refine .inl ?_
      show a.span.stop ≤ _
      rw [start]
      by_cases hprevious : i = k
      · subst hprevious
        rw [before] at ha
        obtain rfl := Option.some.inj ha
        exact Nat.le_refl _
      · have := hbefore (by omega) ha before
        exact Nat.le_trans (Nat.le_of_lt this) previous.span.start_le_stop
    · have := hbefore hgt domain ha
      refine .inr ?_
      show _ < a.span.start
      rw [stop]
      exact this

end Call.FixAt

/-! ## The gap of a fix -/

/-- `c.Gap i lo hi`: between the offsets `lo` and `hi`, no argument of the call but a
string literal that ends at `hi`. -/
inductive Call.Gap (c : Call) : Nat → Nat → Prop where
  /-- Right behind the last argument. -/
  | behind_last {last : Argument} (anchor : c.arguments.getLast? = some last)
      (room : last.span.stop < c.span.stop) : c.Gap last.span.stop last.span.stop
  /-- From the end of an argument to the end of a string literal after it. -/
  | around_literal {before after : List Argument} {previous arg : Argument}
      (split : c.arguments = before ++ previous :: arg :: after)
      (literal : arg.isLiteral = true) : c.Gap previous.span.stop arg.span.stop

namespace Call.Gap

variable {text : Text} {c : Call} {lo hi : Nat}

/-- There is a character of the call on either side of a gap. -/
theorem within (hgap : c.Gap lo hi) (h : c.WellPlaced text) :
    c.span.start < lo ∧ lo ≤ hi ∧ hi < c.span.stop := by
  cases hgap with
  | @behind_last last anchor room =>
    have hstart := h.behind_start last (List.mem_of_getLast? anchor)
    have := last.span.start_le_stop
    omega
  | @around_literal before after previous arg split literal =>
    have hprevious : previous ∈ c.arguments := by rw [split]; simp
    have harg : arg ∈ c.arguments := by rw [split]; simp
    have hstart := h.behind_start previous hprevious
    have hstop := h.literal_before_stop arg harg literal
    have hlt := stop_lt_start_of_adjacent (split ▸ h.apart)
    have := previous.span.start_le_stop
    have := arg.span.start_le_stop
    omega

end Call.Gap

/-- A fix lies in one gap of its call. -/
theorem AttachedFix.exists_gap {policy : Policy} {text : Text} {c : Call} {fix : Fix}
    (hfix : AttachedFix policy c fix) (h : c.WellPlaced text) :
    ∃ lo hi, c.Gap lo hi ∧ lo ≤ fix.span.start ∧ fix.span.stop ≤ hi := by
  cases hfix with
  | insertion _ _ _ _ anchor room =>
    exact ⟨_, _, .behind_last anchor room, Nat.le_refl _, Nat.le_refl _⟩
  | @replacement f arg value _ gettext slot literal _ made =>
    have harg : arg ∈ c.arguments := List.mem_of_getElem? slot
    have hliteral : arg.isLiteral = true := by simp only [Argument.isLiteral, literal]
    obtain ⟨before, previous, after, heq, -⟩ := c.exists_previous gettext slot
    obtain ⟨-, hlo, hhi⟩ := within_of_replacementFix made
    have hlt := stop_lt_start_of_adjacent (heq ▸ h.apart)
    exact ⟨_, _, .around_literal heq hliteral, by omega, hhi⟩
  | @removal f arg _ gettext slot literal _ made =>
    have hliteral : arg.isLiteral = true := by simp only [Argument.isLiteral, literal]
    obtain ⟨before, previous, after, heq, -⟩ := c.exists_previous gettext slot
    have hapart := h.apart
    rw [heq] at hapart made
    obtain ⟨hle, hmade⟩ := removalFix_of_precedes hapart
    rw [made] at hmade
    obtain rfl := Except.ok.inj hmade
    exact ⟨_, _, .around_literal heq hliteral, Nat.le_refl _, Nat.le_refl _⟩

end TextDomain
