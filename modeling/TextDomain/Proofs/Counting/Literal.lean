import TextDomain.Proofs.Counting.Credit
import TextDomain.Proofs.Rewriting.Source

/-!
# What string literals owe to their tokens

A plain literal begins where its first token does. The literals in the fields of a formatted
one are read from texts of their own, which lie in the token one behind another: a position is
in one field at most, and there in one token at most.

## Main results

* `Runs.credit_le_one` — a position lies in one token at most.
* `stringLiteral_pays` — string literals pay, if the grammar for their fields does.
-/

namespace TextDomain

open Token (Lexed lexAt? credit worth)

namespace Token

variable {q : Position} {t : Token} {ts : List Token}

theorem worth_le_one (q : Position) (t : Token) : worth q t ≤ 1 := by
  unfold worth
  split
  · exact Nat.le_refl 1
  · exact Nat.zero_le 1

theorem worth_of_spans (h : t.Spans q) : worth q t = 1 := if_pos h

theorem spans_of_worth (h : worth q t ≠ 0) : t.Spans q := by
  by_contra hnot
  exact h (if_neg hnot)

/-- A position lies in one token at most. -/
theorem Runs.credit_le_one {p : Position} (h : Runs p ts) : credit q ts ≤ 1 := by
  refine tally_le_one (fun t _ => worth_le_one q t) (h.pairwise.imp fun {t u} hle => ?_)
  by_contra hboth
  obtain ⟨ht, hu⟩ := not_or.1 hboth
  exact absurd ((spans_of_worth hu).2.1.trans_lt (spans_of_worth ht).2.2) hle.not_gt

theorem exists_spans_of_credit (h : credit q ts ≠ 0) : ∃ t ∈ ts, t.Spans q := by
  by_contra hnone
  refine h (tally_eq_zero fun t ht => ?_)
  by_contra hworth
  exact hnone ⟨t, ht, spans_of_worth hworth⟩

end Token

/-! ## Replacement fields -/

namespace Literal.Field

variable {q : Position} {f f' : Field}

/-- What the tokens of its expression are worth. -/
def worth (q : Position) (f : Field) : Nat :=
  match lexAt? f.position ('(' :: f.source ++ [')', '\n']) with
  | none => 0
  | some tokens => credit q tokens

theorem worth_le_one (q : Position) (f : Field) : f.worth q ≤ 1 := by
  unfold worth
  split
  next => exact Nat.zero_le 1
  next h => exact (Lexed.ofField f h).runs.credit_le_one

theorem exists_spans_of_worth (h : f.worth q ≠ 0) :
    ∃ tokens, lexAt? f.position ('(' :: f.source ++ [')', '\n']) = some tokens ∧
      ∃ u ∈ tokens, u.Spans q := by
  unfold worth at h
  split at h
  next => exact absurd rfl h
  next tokens htokens => exact ⟨tokens, htokens, Token.exists_spans_of_credit h⟩

/-- The expression of a field ends before the next field. -/
theorem Precedes.le_position (h : f.Precedes f') {tokens : List Token}
    (hlexed : lexAt? f.position ('(' :: f.source ++ [')', '\n']) = some tokens) {p : Position}
    (hp : (Lexed.ofField f hlexed).Inside p) : p ≤ f'.position := by
  obtain ⟨pre, hpre, hproper, rfl⟩ := hp
  obtain ⟨x, post, hx, hposition⟩ := h
  have hshort : pre.length ≤ f.source.length + 2 := by
    have hlt := Nat.lt_of_le_of_ne hpre.length_le fun heq => hproper (hpre.eq_of_length heq)
    simp only [Lexed.ofField, List.length_append, List.length_cons, List.length_nil] at hlt
    omega
  obtain ⟨pre', ⟨more, hmore⟩, hafter⟩ := Lexed.after_parenthesized hx hpre hshort f.position
  have hsplit : '{' :: f.source ++ x :: post = pre' ++ (more ++ post) := by
    rw [← List.append_assoc, hmore, List.append_assoc]
    rfl
  rw [hposition, hsplit, Position.after_append]
  exact hafter.le.trans (Position.le_after _ _)

/-- A position lies in the tokens of one of them at most. -/
theorem Precedes.worth_eq_zero_or (h : f.Precedes f') : f.worth q = 0 ∨ f'.worth q = 0 := by
  by_contra hboth
  obtain ⟨hf, hf'⟩ := not_or.1 hboth
  obtain ⟨tokens, hlexed, u, hu, hspans⟩ := exists_spans_of_worth hf
  obtain ⟨tokens', hlexed', u', hu', hspans'⟩ := exists_spans_of_worth hf'
  have hstop : u.extent.stop ≤ f'.position := h.le_position hlexed
    (Lexed.inside_stop (l := .ofField f hlexed) hu (by rw [hspans.1]; rfl))
  have hstart : f'.position ≤ u'.extent.start := (Lexed.ofField f' hlexed').runs.le_start hu'
  exact absurd (hspans.2.2.trans_le (hstop.trans (hstart.trans hspans'.2.1))) (lt_irrefl q)

end Literal.Field

/-- The fields of a token are worth no more than the token. -/
theorem Token.tally_worth_le {q : Position} {t : Token} {p : Literal.Piece} {r : Text}
    {fields : List Literal.Field} (hkind : t.kind = .string)
    (hstop : t.extent.stop = t.extent.start.after t.text) (hformatted : p.isFormatted = true)
    (hpiece : Literal.splitPiece? t.text = some (p, r))
    (hfields : Literal.fields? p.isRaw p.body
      (t.extent.start.after (t.text.take (p.letters.length + p.quoteWidth))) = some fields) :
    tally (Literal.Field.worth q) fields ≤ worth q t := by
  by_cases hnone : ∀ f ∈ fields, f.worth q = 0
  · rw [tally_eq_zero hnone]
    exact Nat.zero_le _
  -- A token that spans the position lies in the text of a field, and that in the token.
  obtain ⟨f, hf, hworth⟩ : ∃ f ∈ fields, f.worth q ≠ 0 := by simpa using hnone
  obtain ⟨tokens, hlexed, u, hu, hspans⟩ := Literal.Field.exists_spans_of_worth hworth
  have hfield : Rewriting.FieldOf t p f tokens :=
    ⟨hkind, hstop, hformatted, ⟨r, hpiece⟩, ⟨fields, hfields, hf⟩, hlexed⟩
  rw [worth_of_spans ⟨hkind, (hfield.start_lt_token hu).le.trans hspans.2.1,
    hspans.2.2.trans_le (hfield.token_stop_le hu hspans.1)⟩]
  exact tally_le_one (fun f _ => f.worth_le_one q)
    ((Literal.pairwise_of_fields? hfields).imp fun h => h.worth_eq_zero_or)

namespace Parser

/-- A grammar that pays for every phrase, whatever the text. -/
def Settles (q : Position) (g : Grammar) : Prop :=
  ∀ l goal, Pays l q 0 (g goal) (Node.literalsAt q)

variable {g : Grammar} {q : Position} (hg : Settles q g) (l : Lexed)

include hg

theorem fieldExpression_pays (f : Literal.Field) :
    Pays l q (f.worth q) (fieldExpression g f) (Node.literalsAt q) := by
  intro s hs n s' h
  unfold fieldExpression at h
  split at h
  next => cases h
  next tokens htokens =>
    obtain ⟨⟨n', s₁⟩, hread, heq⟩ := Option.map_eq_some_iff.1 h
    cases heq
    obtain ⟨-, hle⟩ := hg (.ofField f htokens) _ (TokenStream.of_tokens _) hread
    have hworth : f.worth q = credit q tokens := by rw [Literal.Field.worth, htokens]
    have hle : Node.literalsAt q n + credit q s₁.rest ≤ 0 + credit q tokens := hle
    exact ⟨hs, by omega⟩

variable {l} in
theorem pieceFields_pays {t : Token} (ht : t ∈ l.tokens) (hkind : t.kind = .string)
    {p : Literal.Piece} {r : Text} (hpiece : Literal.splitPiece? t.text = some (p, r))
    (hformatted : p.isFormatted = true) :
    Pays l q (worth q t) (pieceFields g t p) (Node.literalsAtOf q) := by
  refine .given fun fields hfields => ?_
  have hpays : Pays l q (tally (Literal.Field.worth q) fields) (fields.mapM (fieldExpression g))
      (tally (Node.literalsAt q)) := .mapM fun f _ => fieldExpression_pays hg l f
  refine (hpays.of_le ?_).mono fun ns => (Node.tally_literalsAt ns).ge
  exact Token.tally_worth_le hkind (Lexed.stop_eq ht) hformatted hpiece hfields

variable {l} in
/-- The value of a piece, or the expressions in its fields. -/
theorem piece_pays {t : Token} (ht : t ∈ l.tokens) (hkind : t.kind = .string)
    {p : Literal.Piece} {r : Text} (hpiece : Literal.splitPiece? t.text = some (p, r)) :
    Pays l q (worth q t) (do
      if p.isFormatted then return (([] : Text), ← pieceFields g t p)
      else
        let value ← (p.value? : Option _)
        return (value, [])) fun part => Node.literalsAtOf q part.2 := by
  by_cases hformatted : p.isFormatted = true
  · rw [if_pos hformatted]
    exact (pieceFields_pays hg ht hkind hpiece hformatted).bind fun ns => .pure (Nat.le_refl _)
  · rw [if_neg hformatted]
    exact (Pays.ofOption _).skip fun _ => .pure (Nat.zero_le _)

omit hg in
variable {l} in
/-- Pieces side by side are worth what may begin where the first of them does. -/
theorem le_tally_worth {s s' : TokenStream} (hs : s.Of l) {tokens : List Token}
    (h : many₁ (ofKind .string) s = some (tokens, s')) :
    (if s.position = q then 1 else 0) ≤ tally (worth q) tokens := by
  obtain ⟨first, s₁, hfirst, h⟩ := of_bind_eq_some h
  obtain ⟨more, s₂, -, h⟩ := of_bind_eq_some h
  obtain ⟨rfl, rfl⟩ := of_pure_eq_some h
  obtain ⟨-, -, hmem, hkind⟩ := Reads.token (solid_kind rfl) hs hfirst
  have hkind : first.kind = .string := eq_of_beq hkind
  have hlayout : Token.isLayoutKind first.kind = false := by rw [hkind]; rfl
  have hstart := (takes_of_token hs hfirst hlayout).start
  split
  next hq =>
    have hspans : first.Spans q := by
      rw [← hq, hstart]
      exact ⟨hkind, le_refl _, Lexed.start_lt_stop hmem hlayout⟩
    rw [tally_cons, Token.worth_of_spans hspans]
    exact Nat.le_add_right 1 _
  next => exact Nat.zero_le _

theorem stringLiteral_pays : Pays l q 0 (stringLiteral g) (Node.literalsAt q) := by
  intro s hs n s' h
  rw [stringLiteral, bind_here_apply] at h
  obtain ⟨tokens, s₁, htokens, h⟩ := of_bind_eq_some h
  obtain ⟨hs₁, hpaid⟩ := (Pays.token _).many₁ (q := q) hs htokens
  have hfirst := le_tally_worth (q := q) hs htokens
  obtain ⟨-, -, hall⟩ := (Reads.token (l := l) (solid_kind rfl)).many₁ hs htokens
  obtain ⟨pieces, s₂, hpieces, h⟩ := of_bind_eq_some h
  obtain ⟨-, rfl, hpiece⟩ := Reads.mapM (T := Eq)
    (Q := fun x : Token × Literal.Piece => (x.1 ∈ l.tokens ∧ x.1.kind = .string) ∧
      ∃ r, Literal.splitPiece? x.1.text = some (x.2, r))
    (fun t ht => (Reads.ofOption _).finish fun x hx =>
      ⟨⟨(hall t ht).1, eq_of_beq (hall t ht).2⟩, x.2, hx⟩) hs₁ hpieces
  obtain ⟨-, hsplit⟩ := Pays.mapM (q := q) (m := worth q) (r := fun x => worth q x.1)
    (fun t _ => (Pays.ofOption _).skip fun x => .pure (Nat.le_refl _)) hs₁ hpieces
  have hsplit : tally (fun x => worth q x.1) pieces ≤ tally (worth q) tokens := by omega
  obtain ⟨stop, s₂, hstop, h⟩ := of_bind_eq_some h
  cases hstop
  have hrest : s'.Of l ∧
      Node.literalsAt q n + credit q s'.rest ≤ tally (worth q) tokens + credit q s₁.rest := by
    refine (Pays.ite ?_ ?_ : Pays l q _ _ (Node.literalsAt q)) hs₁ h
    · exact (Pays.check _).skip fun _ => .pure (Nat.zero_le _)
    refine (Pays.check _).skip fun _ => ?_
    by_cases hformatted : ∃ x ∈ pieces, x.2.isFormatted = true
    · refine Pays.bind (m := tally fun part => Node.literalsAtOf q part.2)
        ((Pays.mapM (m := fun x => worth q x.1) fun x hx => ?_).of_le hsplit) fun parts => ?_
      · obtain ⟨⟨ht, hkind⟩, r, hpiece⟩ := hpiece x hx
        exact piece_pays hg ht hkind hpiece
      · rw [if_pos (List.any_eq_true.2 hformatted)]
        exact .pure (Node.literalsAtOf_flatMap _ parts).le
    -- No piece is formatted: a literal, which begins where the first piece does.
    · have hplain : ∀ x ∈ pieces, ¬ x.2.isFormatted = true := fun x hx hx' =>
        hformatted ⟨x, hx, hx'⟩
      refine Pays.skip ?_ fun parts => ?_
      · refine ((Pays.mapM (m := fun _ => 0) (r := fun _ => 0) fun x hx => ?_).of_le
          (tally_eq_zero fun _ _ => rfl).le).ignore
        obtain ⟨t, p⟩ := x
        dsimp only
        rw [if_neg (hplain _ hx)]
        exact (Pays.ofOption _).skip fun _ => .pure (Nat.zero_le _)
      · rw [if_neg fun h => hformatted (List.any_eq_true.1 h)]
        exact .pure hfirst
  exact ⟨hrest.1, by omega⟩

end Parser

end TextDomain
