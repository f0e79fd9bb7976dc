import TextDomain.Proofs.Fixing.Splice
import TextDomain.Proofs.Literal.Plain
import TextDomain.Proofs.Rule.Placement

/-!
# What a fix writes

A replacement keeps the letters and the quotes of a literal where it knows
them, and writes a literal of its own where it does not. Either way what stands
in the place of the old literal is a single piece, with the allowed domain for
its value: also when the markers are those of two pieces side by side, for then
everything between the first and the last quote is replaced. An insertion
writes a literal of its own after a comma.

## Main results

* `replacementFix_denotes` — the edit puts one piece in the place of a literal.
* `fixes_denote` — the same for all fixes that write a domain.
-/

namespace TextDomain

namespace Fix

/-- A single fix inside the text is carried out. -/
theorem applyAll_single {kind : FixKind} {span : Span} {before middle after text : Text}
    (hstart : before.length = span.start) (hstop : (before ++ middle).length = span.stop) :
    applyAll (before ++ middle ++ after) [⟨kind, span, text⟩] =
      .ok (before ++ text ++ after, 1) := by
  have hinside : span.stop ≤ (before ++ middle ++ after).length := by
    calc span.stop = (before ++ middle).length := hstop.symm
      _ ≤ (before ++ middle ++ after).length := (List.sublist_append_left _ _).length_le
  have hbefore : (before ++ middle ++ after).take span.start = before := by
    rw [List.append_assoc, List.take_left' hstart]
  have hafter : (before ++ middle ++ after).drop span.stop = after := List.drop_left' hstop
  rw [applyAll_singleton hinside, applyTo, hbefore, hafter]

end Fix

open Literal

variable {policy : Policy} {d : Text}

theorem denotes_new_literal (h : Bare d) : Denotes ('\'' :: d ++ ['\'']) d := by
  have hdenotes : Denotes ([] ++ ['\''] ++ d ++ ['\'']) d := h.denotes (by decide) (by decide)
  exact hdenotes

/-- Replacing a plain literal by a bare domain puts one piece in its place. -/
theorem replacementFix_denotes (honly : policy.onlyAllowed? = some d) (hbare : Bare d)
    {domain : Domain} (hliteral : IsPlainLiteral domain.source.unifyTerminators)
    {before : Text} (hstart : domain.start = before.length)
    (hstop : domain.stop = domain.start + domain.source.length) (after : Text) :
    ∃ fix t, replacementFix domain policy = .ok (some fix) ∧
      Fix.applyAll (before ++ domain.source ++ after) [fix] = .ok (before ++ t ++ after, 1) ∧
      Denotes t d := by
  have hstop' : domain.stop = (before ++ domain.source).length := by
    rw [hstop, hstart, List.length_append, Int.natCast_add]
  have hgroup := hliteral.isPlainGroup
  have hnonempty : domain.source ≠ [] := by
    intro hnil
    rw [hnil] at hliteral
    cases hliteral with
    | single hsplit => cases hsplit
    | cons hsplit => cases hsplit
  have hmarkers : markers? domain.source = markersOf? domain.source := by
    simp [markers?, hnonempty]
  unfold replacementFix
  simp only [honly, hmarkers]
  cases hm : markersOf? domain.source with
  | none =>
    have hle : before.length ≤ (before ++ domain.source).length := by
      rw [List.length_append]
      omega
    refine ⟨⟨.replace, ⟨_, _, hle⟩, '\'' :: d ++ ['\'']⟩, '\'' :: d ++ ['\''], ?_, ?_,
      denotes_new_literal hbare⟩
    · rw [hstart, hstop', Fix.onPair_of_le hle]
      rfl
    · exact Fix.applyAll_single rfl rfl
  | some m =>
    obtain ⟨quote, hquote, middle, hsource, rfl⟩ := markersOf?_eq hm
    generalize domain.source.takeWhile isMarkerLetter = letters at hgroup hsource
    have hle : (before ++ (letters ++ quote)).length ≤
        (before ++ (letters ++ quote) ++ middle).length := by
      simp only [List.length_append]
      omega
    have hstart' : domain.start + (letters.length + quote.length : Nat) =
        (before ++ (letters ++ quote)).length := by
      rw [hstart]
      simp only [List.length_append]
      omega
    have hstop'' : domain.stop - quote.length =
        (before ++ (letters ++ quote) ++ middle).length := by
      rw [hstop', hsource]
      simp only [List.length_append]
      omega
    refine ⟨⟨.replace, ⟨_, _, hle⟩, d⟩, letters ++ quote ++ d ++ quote, ?_, ?_,
      hbare.denotes hgroup hquote⟩
    · dsimp only
      rw [hstart', hstop'', Fix.onPair_of_le hle]
      rfl
    · have happlied :
          Fix.applyAll (before ++ (letters ++ quote) ++ middle ++ (quote ++ after))
            [⟨.replace, ⟨_, _, hle⟩, d⟩] =
          .ok (before ++ (letters ++ quote) ++ d ++ (quote ++ after), 1) :=
        Fix.applyAll_single rfl rfl
      rw [hsource]
      simpa only [List.append_assoc] using happlied

/-- With room behind the last argument there is an insertion, and what it writes
is a comma, a space and a new literal. -/
theorem insertionFix_eq_some_iff (honly : policy.onlyAllowed? = some d) {call : Call} {fix : Fix} :
    insertionFix call policy = some fix ↔
      ∃ last, call.arguments.getLast? = some last ∧ last.span.stop < call.span.stop ∧
        fix = ⟨.insert, .empty last.span.stop, ',' :: ' ' :: ('\'' :: d ++ ['\''])⟩ := by
  unfold insertionFix
  cases hlast : call.arguments.getLast? with
  | none => simp [honly]
  | some last =>
    by_cases hroom : last.span.stop < call.span.stop
    · simp [honly, hroom, eq_comm]
    · simp [honly, hroom, Nat.le_of_not_lt hroom]

/-- A fix that writes a bare domain writes it as one piece: in the place of a
plain literal, or behind a comma and a space. -/
theorem fixes_denote (honly : policy.onlyAllowed? = some d) (hbare : Bare d) :
    (∀ (domain : Domain) (before after : Text),
      IsPlainLiteral domain.source.unifyTerminators →
      domain.start = before.length →
      domain.stop = domain.start + domain.source.length →
      ∃ fix t, replacementFix domain policy = .ok (some fix) ∧
        Fix.applyAll (before ++ domain.source ++ after) [fix] = .ok (before ++ t ++ after, 1) ∧
        Denotes t d) ∧
    (∀ call fix, insertionFix call policy = some fix →
      ∃ t, fix.text = ',' :: ' ' :: t ∧ Denotes t d) ∧
    ∀ (call : Call) (last : Argument), call.arguments.getLast? = some last →
      last.span.stop < call.span.stop → ∃ fix, insertionFix call policy = some fix := by
  refine ⟨?_, ?_, ?_⟩
  · intro domain before after hliteral hstart hstop
    exact replacementFix_denotes honly hbare hliteral hstart hstop after
  · intro call fix hfix
    obtain ⟨last, -, -, rfl⟩ := (insertionFix_eq_some_iff honly).1 hfix
    exact ⟨_, rfl, denotes_new_literal hbare⟩
  · intro call last hlast hroom
    exact ⟨_, (insertionFix_eq_some_iff honly).2 ⟨last, hlast, hroom, rfl⟩⟩

/-- A wide piece directly before an empty narrow one has the markers of a single
wide piece; the edit makes it one. The call is short of its domain, and has room
for an insertion. -/
theorem fixes_denote_adjacent_pieces :
    let s : Text := "U\"\"\"a\r\n\"\"\"\"\"".toList
    let domain : Domain := ⟨true, .text "a\n".toList, 8, 20, [], s⟩
    let policy : Policy := { allowed := ["my-dómain".toList] }
    let call : Call := ⟨none, [⟨.literal "x".toList, ⟨3, 6, by decide⟩, [], none⟩],
      ⟨0, 7, by decide⟩, none, by decide⟩
    (∃ fix t, replacementFix domain policy = .ok (some fix) ∧
      Fix.applyAll ("__('x', ".toList ++ s ++ ")".toList) [fix] =
        .ok ("__('x', ".toList ++ t ++ ")".toList, 1) ∧ Denotes t "my-dómain".toList) ∧
    ∃ fix t, insertionFix call policy = some fix ∧ fix.text = ',' :: ' ' :: t ∧
      Denotes t "my-dómain".toList := by
  intro s domain policy call
  have hempty : IsPlainLiteral ['"', '"'] :=
    .single (p := ⟨[], '"', false, []⟩) rfl (by decide)
  have hsplit : splitPiece? (Text.unifyTerminators s) =
      some (⟨['U'], '"', true, "a\n".toList⟩, [] ++ ['"', '"']) := rfl
  have hliteral : IsPlainLiteral (Text.unifyTerminators s) :=
    .cons hsplit (by decide) .nil hempty
  obtain ⟨hreplace, hinsert, hroom⟩ := @fixes_denote policy "my-dómain".toList rfl (by decide)
  obtain ⟨fix, hfix⟩ := hroom call _ rfl (by decide)
  obtain ⟨t, htext, hdenotes⟩ := hinsert call fix hfix
  exact ⟨hreplace domain "__('x', ".toList ")".toList hliteral rfl rfl,
    fix, t, hfix, htext, hdenotes⟩

end TextDomain
