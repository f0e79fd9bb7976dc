import Mathlib.Data.List.Basic
import TextDomain.Call

/-!
# Which calls are accepted

A host hands over a call as a range and arguments, each of which has been checked by
itself. What is left to check is the range, and that the arguments stand in the order
of the source. For the order the beginning of an argument is compared only with the end
of the one right before it, and one that begins too early is enough to have the call
refused.

It is enough to look at neighbours because of the check that each argument has passed:
none ends before it begins, an empty one no more than the others, so the ends do not fall
back from one argument to the next. In a call that is accepted every argument therefore
ends at or before the beginning of all later ones, and no character belongs to two of them.

## Main results

* `neighboursInOrder_eq_false_iff` — out of order means that two neighbours are.
* `Call.build_eq_error_iff` — what has a call refused, and with which error.
* `Call.accepted_iff_apart` — a call is accepted exactly if its range is valid and every
  two arguments are in order.
-/

namespace TextDomain

variable {functionName : Option Text} {arguments : List Argument} {offsets : List Int}
  {location : Option Location} {e : ContractError}

/-! ## Ranges -/

/-- Two offsets, of which the first is not before the start of the text and the second
not before the first. -/
def IsRange (offsets : List Int) : Prop :=
  ∃ start stop, offsets = [start, stop] ∧ 0 ≤ start ∧ start ≤ stop

theorem Span.isRange_offsets (s : Span) : IsRange s.offsets := by
  have hproper := s.start_le_stop
  exact ⟨s.start, s.stop, rfl, by omega, by omega⟩

/-- Exactly the ranges become spans. -/
theorem Span.exists_ofOffsets_iff {subject : Subject} :
    (∃ s, ofOffsets subject offsets = .ok s) ↔ IsRange offsets := by
  constructor
  · rintro ⟨s, hs⟩
    rw [ofOffsets_ok_iff.1 hs]
    exact s.isRange_offsets
  · rintro ⟨start, stop, rfl, hstart, hstop⟩
    refine ⟨⟨start.toNat, stop.toNat, by omega⟩, ofOffsets_ok_iff.2 ?_⟩
    rw [offsets, Int.toNat_of_nonneg hstart, Int.toNat_of_nonneg (by omega)]

theorem Span.ofOffsets_of_length_ne {subject : Subject} (h : offsets.length ≠ 2) :
    ofOffsets subject offsets = .error (.notAPair subject offsets) := by
  unfold ofOffsets
  split
  next => exact absurd rfl h
  next => rfl

theorem Span.ofOffsets_of_invalid {subject : Subject} {start stop : Int}
    (h : start < 0 ∨ stop < start) :
    ofOffsets subject [start, stop] = .error (.invalidSpan subject start stop) :=
  dif_neg (by omega)

/-- What is no range has other than two offsets, or two that are out of order. -/
theorem isRange_or_length_ne_or (offsets : List Int) :
    IsRange offsets ∨ offsets.length ≠ 2 ∨
      ∃ start stop, offsets = [start, stop] ∧ (start < 0 ∨ stop < start) := by
  by_cases hlength : offsets.length = 2
  · obtain ⟨start, stop, rfl⟩ := List.length_eq_two.1 hlength
    by_cases hrange : 0 ≤ start ∧ start ≤ stop
    · exact .inl ⟨start, stop, rfl, hrange⟩
    · exact .inr (.inr ⟨start, stop, rfl, by omega⟩)
  · exact .inr (.inl hlength)

/-! ## Neighbours -/

/-- Arguments are out of order exactly if two neighbours are. -/
theorem neighboursInOrder_eq_false_iff :
    neighboursInOrder arguments = false ↔
      ∃ before a b after, arguments = before ++ a :: b :: after ∧ ¬ a.Before b := by
  constructor
  · intro h
    fun_induction neighboursInOrder arguments with
    | case1 a b rest ih =>
      by_cases hab : a.Before b
      · obtain ⟨before, a', b', after, hrest, hnot⟩ := ih (by simpa [hab] using h)
        exact ⟨a :: before, a', b', after, by rw [hrest, List.cons_append], hnot⟩
      · exact ⟨[], a, b, rest, rfl, hab⟩
    | case2 => cases h
  · rintro ⟨before, a, b, after, rfl, hnot⟩
    by_contra horder
    have hpairs := (pairwise_iff_neighboursInOrder _).2 (Bool.not_eq_false _ ▸ horder)
    have htwo := (List.pairwise_append.1 hpairs).2.1
    exact hnot (List.rel_of_pairwise_cons htwo List.mem_cons_self)

/-! ## All pairs -/

/-- Order of all pairs, by their places in the list. -/
theorem pairwise_before_iff_getElem :
    arguments.Pairwise Argument.Before ↔
      ∀ i j (_ : i < j) (_ : j < arguments.length),
        arguments[i].span.stop ≤ arguments[j].span.start := by
  rw [List.pairwise_iff_getElem]
  constructor
  · intro h i j hij hj
    exact h i j (Nat.lt_trans hij hj) hj hij
  · intro h i j _ hj hij
    exact h i j hij hj

/-- The character at the offset belongs to the span. -/
def Span.Covers (s : Span) (i : Nat) : Prop := s.start ≤ i ∧ i < s.stop

/-- No character belongs to two arguments that are in order. -/
theorem Argument.Before.not_covers {a b : Argument} (h : a.Before b) (k : Nat) :
    ¬ (a.span.Covers k ∧ b.span.Covers k) := by
  have hle : a.span.stop ≤ b.span.start := h
  rintro ⟨⟨-, hstop⟩, hstart, -⟩
  omega

/-! ## Calls -/

namespace Call

/-- What has a call refused. The range is looked at first. -/
inductive Refused (functionName : Option Text) (arguments : List Argument) :
    List Int → ContractError → Prop where
  /-- The range has other than two offsets. -/
  | notAPair {offsets : List Int} (h : offsets.length ≠ 2) :
      Refused functionName arguments offsets (.notAPair .call offsets)
  /-- The range begins before the text or ends before its beginning. -/
  | invalidSpan {start stop : Int} (h : start < 0 ∨ stop < start) :
      Refused functionName arguments [start, stop] (.invalidSpan .call start stop)
  /-- An argument begins before the end of the one right before it. -/
  | outOfOrder {offsets : List Int} {before after : List Argument} {a b : Argument}
      (range : IsRange offsets) (neighbours : arguments = before ++ a :: b :: after)
      (h : b.span.start < a.span.stop) :
      Refused functionName arguments offsets (.argumentsOutOfOrder functionName)

/-- Calls exist exactly for a range and arguments of which all pairs are in order. -/
theorem exists_build_eq_ok_iff :
    (∃ c, build functionName arguments offsets location = .ok c) ↔
      IsRange offsets ∧ arguments.Pairwise Argument.Before := by
  constructor
  · rintro ⟨c, hc⟩
    obtain ⟨-, rfl, rfl, -⟩ := build_ok_iff.1 hc
    exact ⟨c.span.isRange_offsets, c.inOrder⟩
  · rintro ⟨range, horder⟩
    obtain ⟨span, hspan⟩ : ∃ s, Span.ofOffsets .call offsets = .ok s :=
      Span.exists_ofOffsets_iff.2 range
    exact ⟨⟨functionName, arguments, span, location, horder⟩,
      build_ok_iff.2 ⟨rfl, rfl, Span.ofOffsets_ok_iff.1 hspan, rfl⟩⟩

/-- Behind a valid range the arguments decide. -/
theorem build_of_outOfOrder (range : IsRange offsets) (h : neighboursInOrder arguments = false) :
    build functionName arguments offsets location =
      .error (.argumentsOutOfOrder functionName) := by
  obtain ⟨span, hspan⟩ := Span.exists_ofOffsets_iff.2 range
  rw [build, hspan]
  exact dif_neg (Bool.eq_false_iff.1 h)

/-- A call is refused exactly for these reasons. -/
theorem build_eq_error_iff :
    build functionName arguments offsets location = .error e ↔
      Refused functionName arguments offsets e := by
  constructor
  · intro h
    rcases isRange_or_length_ne_or offsets with range | hlength | ⟨start, stop, rfl, hout⟩
    · cases horder : neighboursInOrder arguments with
      | true =>
        have hpairs := (pairwise_iff_neighboursInOrder arguments).2 horder
        obtain ⟨c, hc⟩ := exists_build_eq_ok_iff.2 ⟨range, hpairs⟩
        rw [hc] at h
        cases h
      | false =>
        rw [build_of_outOfOrder range horder] at h
        obtain rfl := Except.error.inj h
        obtain ⟨before, a, b, after, hsplit, hnot⟩ := neighboursInOrder_eq_false_iff.1 horder
        exact .outOfOrder range hsplit (Nat.lt_of_not_le hnot)
    · rw [build, Span.ofOffsets_of_length_ne hlength] at h
      obtain rfl := Except.error.inj h
      exact .notAPair hlength
    · rw [build, Span.ofOffsets_of_invalid hout] at h
      obtain rfl := Except.error.inj h
      exact .invalidSpan hout
  · intro h
    cases h with
    | notAPair hlength => rw [build, Span.ofOffsets_of_length_ne hlength]
    | invalidSpan hout => rw [build, Span.ofOffsets_of_invalid hout]
    | outOfOrder range hsplit hlt =>
      exact build_of_outOfOrder range
        (neighboursInOrder_eq_false_iff.2 ⟨_, _, _, _, hsplit, Nat.not_le_of_lt hlt⟩)

/-- A call is accepted exactly if its range is valid and every argument ends at or before
the beginning of every later one. What is accepted has the parts that were handed over,
and no character belongs to two of its arguments. Any other call is refused, and the error
says whether the range or two neighbours are wrong. -/
theorem accepted_iff_apart (functionName : Option Text) (arguments : List Argument)
    (offsets : List Int) (location : Option Location) :
    ((∃ c, build functionName arguments offsets location = .ok c) ↔
        (∃ start stop, offsets = [start, stop] ∧ 0 ≤ start ∧ start ≤ stop) ∧
          ∀ i j (_ : i < j) (_ : j < arguments.length),
            arguments[i].span.stop ≤ arguments[j].span.start) ∧
      (∀ c, build functionName arguments offsets location = .ok c →
        (c.functionName = functionName ∧ c.arguments = arguments ∧
          c.span.offsets = offsets ∧ c.location = location) ∧
        ∀ i j (_ : i < j) (_ : j < c.arguments.length),
          c.arguments[i].span.stop ≤ c.arguments[j].span.start ∧
            ∀ k, ¬ (c.arguments[i].span.Covers k ∧ c.arguments[j].span.Covers k)) ∧
      ∀ e, build functionName arguments offsets location = .error e ↔
        Refused functionName arguments offsets e := by
  have haccepted : (∃ c, build functionName arguments offsets location = .ok c) ↔ _ :=
    exists_build_eq_ok_iff
  rw [pairwise_before_iff_getElem] at haccepted
  refine ⟨haccepted, ?_, fun e => build_eq_error_iff⟩
  intro c hc
  obtain ⟨hname, hargs, hoffsets, hlocation⟩ := build_ok_iff.1 hc
  obtain ⟨-, hpairs⟩ := haccepted.1 ⟨c, hc⟩
  refine ⟨⟨hname, hargs, hoffsets.symm, hlocation⟩, ?_⟩
  subst hargs
  intro i j hij hj
  have hbefore : c.arguments[i].Before c.arguments[j] := hpairs i j hij hj
  exact ⟨hbefore, hbefore.not_covers⟩

/-- Three arguments of which the second is empty and touches both others. -/
def emptyBetween : List Argument :=
  [⟨.literal ['a'], ⟨14, 31, by decide⟩, [], none⟩, ⟨.other .null, .empty 31, [], none⟩,
    ⟨.literal ['d'], ⟨31, 44, by decide⟩, [], none⟩]

/-- They are accepted with an empty range for the call, and refused the other way round. -/
theorem accepted_iff_apart_emptyBetween :
    (∃ c, build none emptyBetween [0, 0] none = .ok c ∧ c.arguments = emptyBetween) ∧
      (∀ i j (_ : i < j) (_ : j < emptyBetween.length) (k : Nat),
        ¬ (emptyBetween[i].span.Covers k ∧ emptyBetween[j].span.Covers k)) ∧
      build none emptyBetween.reverse [0, 0] none = .error (.argumentsOutOfOrder none) := by
  have range : IsRange [0, 0] := ⟨0, 0, rfl, by decide, by decide⟩
  have horder : emptyBetween.Pairwise Argument.Before := by decide
  obtain ⟨haccepted, hparts, -⟩ := accepted_iff_apart none emptyBetween [0, 0] none
  obtain ⟨-, -, hrefused⟩ := accepted_iff_apart none emptyBetween.reverse [0, 0] none
  obtain ⟨c, hc⟩ := haccepted.2 ⟨range, pairwise_before_iff_getElem.1 horder⟩
  obtain ⟨⟨-, hargs, -, -⟩, hapart⟩ := hparts c hc
  simp only [hargs] at hapart
  have hneighbours : Refused none emptyBetween.reverse [0, 0] (.argumentsOutOfOrder none) :=
    @Refused.outOfOrder _ _ _ [] _ _ _ range rfl (by decide)
  exact ⟨⟨c, hc, hargs⟩, fun i j hij hj => (hapart i j hij hj).2, (hrefused _).2 hneighbours⟩

end Call

end TextDomain
