import Mathlib.Data.List.Infix
import TextDomain.Literal.Marker

/-!
# The one reading of a literal

Markers are looked for from the left: letters first, then a quote, three wide
where three equal quote characters stand in a row. That is one way to go about
it. What is wanted is a statement without a direction: the source consists of
letters, a quote, a body in which this quote does not occur, and the quote again.
`ReadsAs` says this, and the search finds such a reading whenever there is one.

No source has two readings, although in a row of quote characters several may
seem to fit. The letters end where the quote begins, since no quote character is
a letter. And if three equal quote characters follow, they are one wide quote: for
a narrow one, the body would begin with the quote itself, or, if the source ends
there, consist of it.

## Main results

* `ReadsAs.leadingQuote?_eq` — a reading has the quote that the search finds.
* `ReadsAs.unique` — there is one reading at most.
* `markersOf?_eq_some_iff` — the search finds the widths of the reading.
* `markers?_eq_iff` — the same with sources that are not known.
-/

namespace TextDomain

namespace Text

/-- A part occurs in a text exactly if something stands before and behind it. -/
theorem occursIn_iff {part t : Text} : occursIn part t = true ↔ part <:+: t := by
  induction t with
  | nil => simp [occursIn]
  | cons c rest ih =>
    rw [occursIn, Bool.or_eq_true, ih, startsWith, List.isPrefixOf_iff_prefix,
      List.infix_cons_iff]

end Text

namespace Literal

/-- Whether a text is one of the four quotes: an apostrophe or a double quote, once
or three times. -/
def IsQuote (quote : Text) : Prop :=
  ∃ mark, (mark = '\'' ∨ mark = '"') ∧ (quote = [mark] ∨ quote = [mark, mark, mark])

/-- `ReadsAs s letters quote body`: the source consists of letters, a quote, a body
and the quote again, and the quote does not occur in the body. -/
structure ReadsAs (s letters quote body : Text) : Prop where
  source : s = letters ++ (quote ++ (body ++ quote))
  letter : ∀ c ∈ letters, c ∈ ['r', 'R', 'u', 'U']
  isQuote : IsQuote quote
  absent : ¬ quote <:+: body

variable {s letters quote body : Text}

/-! ## Quotes -/

theorem isQuote_iff : IsQuote quote ↔ quote ∈ quotes := by
  constructor
  · rintro ⟨mark, rfl | rfl, rfl | rfl⟩ <;> decide
  · intro h
    simp only [quotes, List.mem_cons, List.not_mem_nil, or_false] at h
    rcases h with rfl | rfl | rfl | rfl
    · exact ⟨'\'', .inl rfl, .inr rfl⟩
    · exact ⟨'"', .inr rfl, .inr rfl⟩
    · exact ⟨'\'', .inl rfl, .inl rfl⟩
    · exact ⟨'"', .inr rfl, .inl rfl⟩

theorem isMarkerLetter_iff {c : Char} : isMarkerLetter c = true ↔ c ∈ ['r', 'R', 'u', 'U'] := by
  simp [isMarkerLetter, or_assoc]

/-- No quote begins with a letter. -/
theorem IsQuote.exists_cons (h : IsQuote quote) :
    ∃ mark rest, quote = mark :: rest ∧ isMarkerLetter mark = false := by
  obtain ⟨mark, hmark, rfl | rfl⟩ := h
  · exact ⟨mark, [], rfl, by rcases hmark with rfl | rfl <;> rfl⟩
  · exact ⟨mark, _, rfl, by rcases hmark with rfl | rfl <;> rfl⟩

theorem leadingQuote?_wide {mark : Char} (hmark : mark = '\'' ∨ mark = '"') (rest : Text) :
    leadingQuote? (mark :: mark :: mark :: rest) = some [mark, mark, mark] := by
  rcases hmark with rfl | rfl <;> simp [leadingQuote?, quotes, Text.startsWith]

theorem leadingQuote?_narrow {mark : Char} (hmark : mark = '\'' ∨ mark = '"') {rest : Text}
    (hrest : ¬ [mark, mark] <+: rest) : leadingQuote? (mark :: rest) = some [mark] := by
  rw [← List.isPrefixOf_iff_prefix] at hrest
  rcases hmark with rfl | rfl <;> simp [leadingQuote?, quotes, Text.startsWith, hrest]

/-! ## Readings -/

namespace ReadsAs

/-- The letters of a reading are those at the beginning of the source. -/
theorem takeWhile_eq (h : ReadsAs s letters quote body) :
    s.takeWhile isMarkerLetter = letters ∧
      s.dropWhile isMarkerLetter = quote ++ (body ++ quote) := by
  have hletters : ∀ c ∈ letters, isMarkerLetter c = true :=
    fun c hc => isMarkerLetter_iff.2 (h.letter c hc)
  obtain ⟨mark, rest, hquote, hmark⟩ := h.isQuote.exists_cons
  rw [h.source, List.takeWhile_append_of_pos hletters, List.dropWhile_append_of_pos hletters]
  constructor
  · rw [hquote, List.cons_append, List.takeWhile_cons_of_neg (by simp [hmark]), List.append_nil]
  · rw [hquote, List.cons_append, List.dropWhile_cons_of_neg (by simp [hmark])]

/-- The quote of a reading is the one that is found behind the letters. -/
theorem leadingQuote?_eq (h : ReadsAs s letters quote body) :
    leadingQuote? (quote ++ (body ++ quote)) = some quote := by
  obtain ⟨mark, hmark, rfl | rfl⟩ := h.isQuote
  · -- A body without the quote cannot begin with it, and an empty one is too short.
    refine leadingQuote?_narrow hmark ?_
    rintro ⟨rest, hrest⟩
    cases body with
    | nil => simp at hrest
    | cons c body =>
      obtain ⟨rfl, -⟩ := List.cons.inj hrest
      exact h.absent ⟨[], body, rfl⟩
  · exact leadingQuote?_wide hmark _

/-- A source has one reading at most. -/
theorem unique (h : ReadsAs s letters quote body) {letters' quote' body' : Text}
    (h' : ReadsAs s letters' quote' body') :
    letters = letters' ∧ quote = quote' ∧ body = body' := by
  have hletters : letters = letters' := h.takeWhile_eq.1.symm.trans h'.takeWhile_eq.1
  have hrest : quote ++ (body ++ quote) = quote' ++ (body' ++ quote') :=
    h.takeWhile_eq.2.symm.trans h'.takeWhile_eq.2
  have hquote : quote = quote' := by
    have hfound := h.leadingQuote?_eq
    rw [hrest, h'.leadingQuote?_eq] at hfound
    exact (Option.some.inj hfound).symm
  subst hquote
  exact ⟨hletters, rfl, List.append_cancel_right (List.append_cancel_left hrest)⟩

theorem length_eq (h : ReadsAs s letters quote body) :
    s.length = letters.length + quote.length + body.length + quote.length := by
  rw [h.source]
  simp only [List.length_append]
  omega

theorem ne_nil (h : ReadsAs s letters quote body) : s ≠ [] := by
  obtain ⟨mark, rest, hquote, -⟩ := h.isQuote.exists_cons
  have hlength := h.length_eq
  rw [hquote, List.length_cons] at hlength
  rintro rfl
  rw [List.length_nil] at hlength
  omega

end ReadsAs

/-! ## Markers -/

/-- The widths are found exactly where there is a reading, and they are those of its
letters and its quote. -/
theorem markersOf?_eq_some_iff {m : Markers} :
    markersOf? s = some m ↔ ∃ letters quote body, ReadsAs s letters quote body ∧
      m = ⟨letters.length + quote.length, quote.length⟩ := by
  constructor
  · intro h
    unfold markersOf? at h
    dsimp only at h
    split at h
    next => cases h
    next quote hquote =>
      split at h
      next => cases h
      next hfits =>
        split at h
        next => cases h
        next habsent =>
          simp only [Bool.or_eq_true, Bool.not_eq_true', not_or, Bool.not_eq_false] at hfits
          have hstarts : Text.startsWith quote (s.dropWhile isMarkerLetter) = true :=
            List.find?_some (p := fun q => Text.startsWith q _) hquote
          obtain ⟨behind, hbehind⟩ := List.isPrefixOf_iff_prefix.1 hstarts
          rw [← hbehind, List.drop_left] at hfits habsent
          obtain ⟨body, rfl⟩ := List.isSuffixOf_iff_suffix.1 hfits.2
          rw [List.length_append, Nat.add_sub_cancel, List.take_left, Text.occursIn_iff]
            at habsent
          refine ⟨s.takeWhile isMarkerLetter, quote, body, ⟨?_, ?_, ?_, habsent⟩,
            (Option.some.inj h).symm⟩
          · rw [hbehind, List.takeWhile_append_dropWhile]
          · intro c hc
            exact isMarkerLetter_iff.1 (List.all_eq_true.1 List.all_takeWhile c hc)
          · exact isQuote_iff.2 (List.mem_of_find?_eq_some hquote)
  · rintro ⟨letters, quote, body, h, rfl⟩
    have habsent : Text.occursIn quote body = false :=
      Bool.eq_false_iff.2 (mt Text.occursIn_iff.1 h.absent)
    have hends : Text.endsWith quote (body ++ quote) = true :=
      List.isSuffixOf_iff_suffix.2 (List.suffix_append body quote)
    unfold markersOf?
    simp only [h.takeWhile_eq.1, h.takeWhile_eq.2, h.leadingQuote?_eq, List.drop_left, hends,
      List.length_append, Nat.add_sub_cancel, List.take_left, habsent]
    simp

theorem markers?_of_ne_nil (h : s ≠ []) : markers? s = markersOf? s := by
  rw [markers?, if_neg (by simpa using h)]

theorem markers?_eq_some_iff {m : Markers} :
    markers? s = some m ↔ s = [] ∧ m = ⟨1, 1⟩ ∨
      ∃ letters quote body, ReadsAs s letters quote body ∧
        m = ⟨letters.length + quote.length, quote.length⟩ := by
  by_cases hs : s = []
  · subst hs
    constructor
    · intro h
      exact .inl ⟨rfl, (Option.some.inj h).symm⟩
    · rintro (⟨-, rfl⟩ | ⟨_, _, _, h, -⟩)
      · rfl
      · exact absurd rfl h.ne_nil
  · rw [markers?_of_ne_nil hs, markersOf?_eq_some_iff]
    simp [hs]

/-- The widths of the markers are known exactly for an unknown source, where they are
taken to be one, and for a source that can be read as letters, a quote, a body
without the quote, and the quote. There is then no other way to read it, and the
markers fit into it. -/
theorem markers?_eq_iff (s : Text) :
    (∀ m, markers? s = some m ↔ s = [] ∧ m = ⟨1, 1⟩ ∨
        ∃ letters quote body, ReadsAs s letters quote body ∧
          m = ⟨letters.length + quote.length, quote.length⟩) ∧
      (∀ letters quote body letters' quote' body', ReadsAs s letters quote body →
        ReadsAs s letters' quote' body' →
        letters = letters' ∧ quote = quote' ∧ body = body') ∧
      (∀ m, s ≠ [] → markers? s = some m → m.opening + m.closing ≤ s.length) ∧
      (markers? s = none ↔ s ≠ [] ∧ ¬ ∃ letters quote body, ReadsAs s letters quote body) := by
  refine ⟨fun m => markers?_eq_some_iff, fun _ _ _ _ _ _ h h' => h.unique h', ?_, ?_⟩
  · intro m hs hm
    rw [markers?_of_ne_nil hs] at hm
    obtain ⟨letters, quote, body, h, rfl⟩ := markersOf?_eq_some_iff.1 hm
    have hlength := h.length_eq
    dsimp only
    omega
  · rw [Option.eq_none_iff_forall_ne_some]
    constructor
    · intro hnone
      refine ⟨fun hs => hnone _ (markers?_eq_some_iff.2 (.inl ⟨hs, rfl⟩)), ?_⟩
      rintro ⟨letters, quote, body, h⟩
      exact hnone _ (markers?_eq_some_iff.2 (.inr ⟨_, _, _, h, rfl⟩))
    · rintro ⟨hs, hnone⟩ m hm
      rcases markers?_eq_some_iff.1 hm with ⟨hnil, -⟩ | ⟨letters, quote, body, h, -⟩
      · exact hs hnil
      · exact hnone ⟨_, _, _, h⟩

/-- Eight apostrophes are two wide quotes around two of them, and nothing else. -/
theorem markers?_eq_iff_eight_quotes :
    let s : Text := "uR''''''''".toList
    ReadsAs s ['u', 'R'] ['\'', '\'', '\''] ['\'', '\''] ∧ markers? s = some ⟨5, 3⟩ ∧
      5 + 3 ≤ s.length ∧
      ∀ letters quote body, ReadsAs s letters quote body →
        letters = ['u', 'R'] ∧ quote = ['\'', '\'', '\''] ∧ body = ['\'', '\''] := by
  intro s
  obtain ⟨hfound, hunique, hfit, -⟩ := markers?_eq_iff s
  have hletters : ∀ c ∈ ['u', 'R'], c ∈ ['r', 'R', 'u', 'U'] :=
    List.forall_mem_cons.2 ⟨by decide, List.forall_mem_singleton.2 (by decide)⟩
  have hreads : ReadsAs s ['u', 'R'] ['\'', '\'', '\''] ['\'', '\''] :=
    ⟨rfl, hletters, ⟨'\'', .inl rfl, .inr rfl⟩, by decide⟩
  have hmarkers : markers? s = some ⟨5, 3⟩ := (hfound _).2 (.inr ⟨_, _, _, hreads, rfl⟩)
  exact ⟨hreads, hmarkers, hfit _ hreads.ne_nil hmarkers,
    fun letters quote body h => hunique _ _ _ _ _ _ h hreads⟩

end Literal

end TextDomain
