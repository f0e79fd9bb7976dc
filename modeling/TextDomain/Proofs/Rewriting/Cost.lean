import TextDomain.Proofs.Rewriting.Parser
import TextDomain.Proofs.Source.Lexed

/-!
# What tokens cost

The cost of the tokens of a text is bounded by its length. The lexer pays for a token with
the characters that it passes over, and for a token of layout with an open level of
indentation, which the blanks at the beginning of its line have paid for.

A field of a formatted piece is shorter than the piece by its letters, quotes and braces,
and this is enough for the tokens of the field to be cheaper than the piece by one token.

## Main results

* `costs_le_of_lexAt?` — the tokens of a text cost four times its length, and little more.
* `costs_field_le` — the tokens of a field are cheaper than the piece around it.
-/

namespace TextDomain

namespace Token

/-- What the tokens may cost that are still to come. -/
def budget (s : Lexing) : Nat := 4 * s.cursor.rest.length + 2 * s.levels.length + 2

theorem cost_le (t : Token) (h : t.text ≠ []) : t.cost ≤ 4 * t.text.length := by
  have := List.length_pos_iff.2 h
  unfold cost
  split <;> omega

theorem cost_of_ne_string {t : Token} (h : t.kind ≠ .string) : t.cost = 2 := if_neg h

theorem costs_layout {kinds : List TokenKind} (h : ∀ k ∈ kinds, isLayoutKind k = true)
    (e : Extent) : costs (kinds.map fun k => ⟨k, [], e⟩) = 2 * kinds.length := by
  induction kinds with
  | nil => rfl
  | cons k kinds ih =>
    obtain ⟨hk, hkinds⟩ := List.forall_mem_cons.1 h
    have hcost : cost ⟨k, [], e⟩ = 2 := by
      refine cost_of_ne_string ?_
      rintro rfl
      cases hk
    rw [List.map_cons, costs_cons, hcost, ih hkinds, List.length_cons]
    omega

/-- Where no blank is passed over, the width of an indentation is zero. -/
theorem wide_of_measure? {t r : Text} {i : Indentation}
    (h : measure? ⟨0, 0⟩ 0 t = some (i, r)) (hlength : t.length ≤ r.length) : i.wide = 0 := by
  unfold measure? at h
  split at h
  next => cases h; rfl
  next =>
    split at h
    · cases h
    · obtain ⟨blank, rfl⟩ := measure?_suffix h
      simp only [List.length_cons, List.length_append] at hlength
      omega
  next =>
    split at h
    · obtain ⟨blank, rfl⟩ := measure?_suffix h
      simp only [List.length_cons, List.length_append] at hlength
      omega
    split at h
    · obtain ⟨blank, rfl⟩ := measure?_suffix h
      simp only [List.length_cons, List.length_append] at hlength
      omega
    split at h
    · obtain ⟨blank, rfl⟩ := measure?_suffix h
      simp only [List.length_cons, List.length_append] at hlength
      omega
    split at h
    · cases h
    · cases h
      rfl

theorem length_leaveLevels (width : Nat) (levels : List Indentation) :
    (leaveLevels width levels).1 + (leaveLevels width levels).2.length = levels.length := by
  induction levels with
  | nil => rfl
  | cons level outer ih =>
    rw [leaveLevels]
    split
    · rw [List.length_cons, ← ih]
      dsimp only
      omega
    · exact Nat.zero_add _

/-- Every level that is opened is announced, and is wider than none; every one that is left
is announced too. -/
theorem layout?_length {levels levels' : List Indentation} {i : Indentation}
    {kinds : List TokenKind} (h : layout? levels i = some (kinds, levels')) :
    kinds.length = 1 ∧ levels'.length = levels.length + 1 ∧ 0 < i.wide ∨
      kinds.length + levels'.length = levels.length := by
  unfold layout? at h
  split at h
  next => cases h
  next current outer =>
    split at h
    · split at h
      · cases h
        exact .inr (Nat.zero_add _)
      · cases h
    split at h
    · split at h
      · cases h
        exact .inl ⟨rfl, rfl, by omega⟩
      · cases h
    · split at h
      next n level outer' hleave =>
        split at h
        · cases h
          have hlength := length_leaveLevels i.wide (current :: outer)
          rw [hleave] at hlength
          refine .inr ?_
          rw [List.length_replicate]
          exact hlength
        · cases h
      next => cases h

/-- A step pays for its tokens. -/
theorem costs_add_budget_le {s s' : Lexing} {ts : List Token} (h : step? s = some (.go ts s')) :
    costs ts + budget s' ≤ budget s := by
  unfold budget
  rcases step?_cases h with ⟨-, hline⟩ | ⟨-, hline⟩
  · cases hline with
    | @blank i c r cursor hmeasure _ hcursor =>
      obtain ⟨blank, hpasses, hrest⟩ := passes_measured hmeasure
      have hlength := hpasses.length_eq
      subst hcursor
      have hskip := length_skipWhile_le
        (s.cursor.advance (s.cursor.rest.length - (c :: r).length)) (· != '\n')
      rw [costs_nil, length_advance]
      dsimp only
      omega
    | inside hmeasure _ hcursor =>
      obtain ⟨blank, hpasses, -⟩ := passes_measured hmeasure
      have hlength := hpasses.length_eq
      subst hcursor
      rw [costs_nil]
      dsimp only
      omega
    | layout hmeasure _ hcursor _ hmeans =>
      obtain ⟨blank, hpasses, hrest⟩ := passes_measured hmeasure
      have hlength := hpasses.length_eq
      subst hcursor
      rw [hrest] at hlength
      rw [costs_layout (isLayoutKind_of_layout? hmeans)]
      dsimp only
      rw [hrest]
      rcases layout?_length hmeans with ⟨hkinds, hlevels, hwide⟩ | hlevels
      · -- The level that is opened has blanks, which pay for it and for its token.
        have hblank : blank.length ≠ 0 := by
          intro hzero
          have := wide_of_measure? hmeasure (by omega)
          omega
        omega
      · omega
  · have hlt := hline.length_lt
    cases hline with
    | comment => rw [costs_nil]; dsimp only at hlt ⊢; omega
    | @newline cursor r =>
      have hcost : costs [⟨.newline, [], ⟨cursor.position, cursor.position⟩⟩] = 2 := rfl
      dsimp only at hlt ⊢
      omega
    | lineEnd => rw [costs_nil]; dsimp only at hlt ⊢; omega
    | joined => rw [costs_nil]; dsimp only at hlt ⊢; omega
    | @lexeme cursor k n brackets hcursor hlexeme =>
      have hbounds := lexeme?_bounds hlexeme
      have hskip := length_skipWhile_le s.cursor isSpace
      rw [← hcursor] at hskip
      have hlength : (cursor.rest.take n).length = n := by
        rw [List.length_take, Nat.min_eq_left hbounds.2]
      have hcost := cost_le ⟨k, cursor.rest.take n, ⟨cursor.position, (cursor.advance n).position⟩⟩
        (List.ne_nil_of_length_pos (by dsimp only; omega))
      rw [costs_cons, costs_nil]
      dsimp only at hcost ⊢
      rw [length_advance]
      omega

theorem costs_le_of_lexFrom? {n : Nat} {s : Lexing} {ts : List Token}
    (h : lexFrom? n s = some ts) : costs ts ≤ budget s := by
  induction n generalizing s ts with
  | zero => cases h
  | succ n ih =>
    rw [lexFrom?] at h
    split at h
    · cases h
    next token hstep =>
      cases h
      rw [costs_cons, costs_nil, cost_of_ne_string]
      · unfold budget
        omega
      · rw [(stop_of_step? hstep).2.1]
        decide
    next tokens next hstep =>
      obtain ⟨more, hmore, rfl⟩ := Option.map_eq_some_iff.1 h
      rw [costs_append]
      have := ih hmore
      have := costs_add_budget_le hstep
      omega

/-- The tokens of a text cost four times its length, and little more. -/
theorem costs_le_of_lexAt? {p : Position} {t : Text} {ts : List Token}
    (h : lexAt? p t = some ts) : costs ts ≤ 4 * t.length + 4 := by
  have := costs_le_of_lexFrom? h
  unfold budget at this
  simpa using this

/-- The tokens of a field are cheaper than the piece around it by one token. -/
theorem costs_field_le {t : Token} (ht : t.kind = .string) {p : Literal.Piece} {r : Text}
    (hpiece : Literal.splitPiece? t.text = some (p, r)) (hformatted : p.isFormatted = true)
    {start : Position} {fields : List Literal.Field}
    (hfields : Literal.fields? p.isRaw p.body start = some fields) {f : Literal.Field}
    (hf : f ∈ fields) {ts : List Token}
    (hlexed : lexAt? f.position ('(' :: f.source ++ [')', '\n']) = some ts) :
    costs ts + 2 ≤ t.cost := by
  obtain ⟨pre, x, post, hbody, -, -⟩ := Literal.fieldLiesIn_of_fields? hfields f hf
  have hletters : 0 < p.letters.length := by
    refine List.length_pos_iff.2 fun hnil => ?_
    rw [Literal.Piece.isFormatted, Literal.Piece.hasLetter, hnil] at hformatted
    cases hformatted
  have hwidth := Literal.quoteWidth_pos p
  have hlength := congrArg List.length (Literal.splitPiece?_eq hpiece)
  have hbody := congrArg List.length hbody
  have hcosts := costs_le_of_lexAt? hlexed
  simp only [List.length_append, List.length_cons, List.length_nil, Literal.length_text]
    at hlength hbody hcosts
  rw [cost, if_pos ht]
  omega

end Token

end TextDomain
