import TextDomain.Proofs.Grammar.Statement
import TextDomain.Proofs.Rewriting.Cost
import TextDomain.Proofs.Rewriting.Motion
import TextDomain.Proofs.Rewriting.Runs
import TextDomain.Proofs.Rewriting.Tokens

/-!
# Fields that are read alike

The expression of a replacement field is read as a text of its own. Behind the literal that
was written anew this text is moved, and so are its tokens. In front of it nothing changes:
there a field is read by the two grammars in the same way, and what they find stays where
it is.

## Main results

* `pieceFields_moved`, `pieceFields_kept` — the fields of a piece have corresponding calls.
-/

namespace TextDomain

namespace Token.Lexed

/-- A position in the expression of a field is one in the piece around it, and the piece
goes on behind it. -/
theorem exists_of_field {text : Text} {p : Literal.Piece} {r : Text}
    (hpiece : Literal.splitPiece? text = some (p, r)) {start : Position}
    {fields : List Literal.Field}
    (hfields : Literal.fields? p.isRaw p.body
      (start.after (text.take (p.letters.length + p.quoteWidth))) = some fields)
    {f : Literal.Field} (hf : f ∈ fields) {tokens : List Token}
    (hlexed : lexAt? f.position ('(' :: f.source ++ [')', '\n']) = some tokens) {q : Position}
    (hq : (ofField f hlexed).Inside q) :
    ∃ u v, text = u ++ v ∧ v ≠ [] ∧ q = start.after u := by
  obtain ⟨pre, hpre, hproper, rfl⟩ := hq
  have hshort : pre.length ≤ f.source.length + 2 := by
    have hlt := Nat.lt_of_le_of_ne hpre.length_le fun heq => hproper (hpre.eq_of_length heq)
    simp only [ofField, List.length_append, List.length_cons, List.length_nil] at hlt
    omega
  obtain ⟨pre₀, x, post, hbody, hx, hposition⟩ := Literal.fieldLiesIn_of_fields? hfields f hf
  dsimp only at hbody hposition
  obtain ⟨pre', ⟨more, hmore⟩, hafter⟩ := after_parenthesized hx hpre hshort f.position
  have htext : text = p.letters ++ p.quote ++ (p.body ++ (p.quote ++ r)) := by
    rw [Literal.splitPiece?_eq hpiece, Literal.Piece.text]
    simp only [List.append_assoc]
  have hfield : p.body = pre₀ ++ (pre' ++ more) ++ post := by
    rw [hbody, hmore]
    simp only [List.cons_append, List.append_assoc, List.nil_append]
  refine ⟨p.letters ++ p.quote ++ (pre₀ ++ pre'), more ++ post ++ (p.quote ++ r), ?_, ?_, ?_⟩
  · rw [htext, hfield]
    simp only [List.append_assoc]
  · intro hnil
    have hwidth := Literal.quoteWidth_pos p
    have hquote := Literal.length_quote p
    have hlength := congrArg List.length hnil
    simp only [List.length_append, List.length_nil] at hlength
    omega
  · show f.position.after pre = _
    rw [hafter, hposition, take_opening hpiece]
    simp only [Position.after_append]

/-- A token ends where its text does. -/
theorem stop_eq {l : Lexed} {t : Token} (ht : t ∈ l.tokens) :
    t.extent.stop = t.extent.start.after t.text := by
  obtain ⟨pre, -, hstart, hstop⟩ := exists_before ht
  rw [hstart, hstop, Position.after_append]

end Token.Lexed

open Token (Lexed lexAt? costs isLayoutKind)

namespace Rewriting

variable {w : Rewriting}

/-- The field is one of those that are found in the body of a piece. -/
def IsFieldOf (t : Token) (p : Literal.Piece) (f : Literal.Field) : Prop :=
  ∃ fields, Literal.fields? p.isRaw p.body
    (t.extent.start.after (t.text.take (p.letters.length + p.quoteWidth))) = some fields ∧
      f ∈ fields

/-- A field of a string token, and the tokens of its expression. -/
structure FieldOf (t : Token) (p : Literal.Piece) (f : Literal.Field) (tokens : List Token) :
    Prop where
  kind : t.kind = .string
  stop : t.extent.stop = t.extent.start.after t.text
  formatted : p.isFormatted = true
  piece : ∃ r, Literal.splitPiece? t.text = some (p, r)
  field : IsFieldOf t p f
  lexed : lexAt? f.position ('(' :: f.source ++ [')', '\n']) = some tokens

namespace FieldOf

variable {t : Token} {p : Literal.Piece} {f : Literal.Field} {tokens : List Token}

theorem costs_le (h : FieldOf t p f tokens) : costs tokens + 2 ≤ t.cost := by
  obtain ⟨r, hpiece⟩ := h.piece
  obtain ⟨fields, hfields, hf⟩ := h.field
  exact Token.costs_field_le h.kind hpiece h.formatted hfields hf h.lexed

theorem start_lt (h : FieldOf t p f tokens) : t.extent.start < f.position := by
  obtain ⟨r, hpiece⟩ := h.piece
  obtain ⟨fields, hfields, hf⟩ := h.field
  exact Lexed.start_lt_of_field hpiece hfields hf

/-- The text of the expression, read as tokens. -/
def text (h : FieldOf t p f tokens) : Lexed := .ofField f h.lexed

theorem start_lt_of_inside (h : FieldOf t p f tokens) {q : Position} (hq : h.text.Inside q) :
    t.extent.start < q := by
  obtain ⟨pre, -, -, rfl⟩ := hq
  exact h.start_lt.trans_le (Position.le_after _ pre)

theorem le_stop_of_inside (h : FieldOf t p f tokens) {q : Position} (hq : h.text.Inside q) :
    q ≤ t.extent.stop := by
  obtain ⟨r, hpiece⟩ := h.piece
  obtain ⟨fields, hfields, hf⟩ := h.field
  obtain ⟨u, v, heq, -, rfl⟩ := Lexed.exists_of_field hpiece hfields hf h.lexed hq
  rw [h.stop, heq, Position.after_append]
  exact Position.le_after _ v

theorem start_lt_token (h : FieldOf t p f tokens) {u : Token} (hu : u ∈ tokens) :
    t.extent.start < u.extent.start :=
  h.start_lt.trans_le (h.text.runs.le_start hu)

theorem token_stop_le (h : FieldOf t p f tokens) {u : Token} (hu : u ∈ tokens)
    (hkind : u.kind = .string) : u.extent.stop ≤ t.extent.stop :=
  h.le_stop_of_inside (Lexed.inside_stop (l := h.text) hu (by rw [hkind]; rfl))

theorem token_stop_eq (h : FieldOf t p f tokens) {u : Token} (hu : u ∈ tokens) :
    u.extent.stop = u.extent.start.after u.text :=
  Lexed.stop_eq (l := h.text) hu

/-- What may stand in the fields of a string may stand in the fields of the strings in its
fields. -/
theorem runSpots (h : FieldOf t p f tokens)
    (hspots : ∀ e : Extent, t.extent.start < e.start → e.stop ≤ t.extent.stop → w.spots e)
    {r : List Token} (hr : ∀ u ∈ r, u ∈ tokens) (hstrings : ∀ u ∈ r, u.kind = .string) :
    w.RunSpots r where
  whole := by
    intro _ first hfirst last hlast
    have hfirst := List.mem_of_head? hfirst
    have hlast := List.mem_of_getLast? hlast
    exact hspots _ (h.start_lt_token (hr first hfirst))
      (h.token_stop_le (hr last hlast) (hstrings last hlast))
  fields := by
    intro u hu _ e hstart hstop
    exact hspots e ((h.start_lt_token (hr u hu)).trans hstart)
      (hstop.trans (h.token_stop_le (hr u hu) (hstrings u hu)))

/-! ## Tokens of fields -/

/-- The tokens of a field behind the literal are moved. -/
theorem tokensMap_moved (h : FieldOf t p f tokens) (hbehind : w.oldStop ≤ t.extent.start)
    (hspots : ∀ e : Extent, t.extent.start < e.start → e.stop ≤ t.extent.stop → w.spots e) :
    w.TokensMap tokens (tokens.map w.moved) := by
  have hstart : ∀ u ∈ tokens, w.oldStop ≤ u.extent.start := fun u hu =>
    hbehind.trans (h.start_lt_token hu).le
  have hmap : w.TokensMap (tokens ++ []) (tokens.map w.moved ++ []) := by
    refine tokensMap_append w.moved [] tokens [] [] nofun (fun _ _ => rfl) ?_ ?_
      (fun _ _ _ => ⟨not_stringNext_nil, not_stringNext_nil⟩) .nil
    · intro u hu _
      have hstop : w.oldStop ≤ u.extent.stop := by
        rw [h.token_stop_eq hu]
        exact (hstart u hu).trans (Position.le_after _ _)
      exact ⟨rfl, rfl, .inr ⟨hstart u hu, rfl⟩, .inr ⟨hstop, rfl⟩⟩
    · intro r hr hrun
      exact ⟨.moved fun u hu => ⟨hstart u (hr u hu), h.token_stop_eq (hr u hu)⟩,
        h.runSpots hspots hr hrun.strings⟩
  simpa only [List.append_nil] using hmap

end FieldOf

/-! ## Texts that stay where they are -/

variable (w) in
/-- The same literal, with nothing moved that is behind `p`. -/
def still (p : Position) : Rewriting := { w with oldStop := p, newStop := p }

theorem shift_still {p q : Position} (h : p ≤ q) : (w.still p).shift q = q := by
  unfold shift still
  dsimp only
  rcases Position.le_iff.1 h with hline | ⟨hline, hcolumn⟩
  · rw [if_neg (by omega)]
    show Position.mk _ _ = Position.mk _ _
    congr 1
    omega
  · rw [if_pos hline.symm]
    show Position.mk _ _ = Position.mk _ _
    congr 1
    omega

theorem maps_still {p q q' : Position} (h : (w.still p).Maps q q') : q' = q := by
  rcases h with ⟨-, rfl⟩ | ⟨hle, rfl⟩
  · rfl
  · exact shift_still hle

namespace FieldOf

variable {t : Token} {p : Literal.Piece} {f : Literal.Field} {tokens : List Token}

/-- The tokens of a field in front of the literal stay as they are. -/
theorem tokensMap_still (h : FieldOf t p f tokens) (hbefore : t.extent.stop ≤ w.start)
    (hspots : ∀ e : Extent, t.extent.start < e.start → e.stop ≤ t.extent.stop → w.spots e) :
    (w.still t.extent.start).TokensMap tokens tokens := by
  have hmap : (w.still t.extent.start).TokensMap (tokens ++ []) (tokens.map id ++ []) := by
    refine tokensMap_append id [] tokens [] [] nofun (fun _ _ => rfl) ?_ ?_
      (fun _ _ _ => ⟨not_stringNext_nil, not_stringNext_nil⟩) .nil
    · intro u hu _
      have hstart := (h.start_lt_token hu).le
      have hstop : t.extent.start ≤ u.extent.stop := by
        rw [h.token_stop_eq hu]
        exact hstart.trans (Position.le_after _ _)
      exact ⟨rfl, rfl, .inr ⟨hstart, (shift_still hstart).symm⟩,
        .inr ⟨hstop, (shift_still hstop).symm⟩⟩
    · intro r hr hrun
      rw [List.map_id]
      refine ⟨.kept fun u hu => ?_, h.runSpots (w := w.still _) hspots hr hrun.strings⟩
      have hkind := hrun.strings u hu
      have hlt : u.extent.start < u.extent.stop :=
        Lexed.start_lt_stop (l := h.text) (hr u hu) (by rw [hkind]; rfl)
      have hle := (h.token_stop_le (hr u hu) hkind).trans hbefore
      exact ⟨hlt.trans_le hle, hle, h.token_stop_eq (hr u hu)⟩
  simpa only [List.append_nil, List.map_id] using hmap

/-- What stands in a field in front of the literal stays there. -/
theorem argumentMaps_of_still (h : FieldOf t p f tokens) (hbefore : t.extent.stop ≤ w.start)
    {n n' : Node} (hn : h.text.Bounds n) (hmaps : (w.still t.extent.start).ArgumentMaps n n') :
    w.ArgumentMaps n n' where
  extent := ⟨.inl ⟨(h.le_stop_of_inside hn.start).trans hbefore, maps_still hmaps.extent.start⟩,
    .inl ⟨(h.le_stop_of_inside hn.stop).trans hbefore, maps_still hmaps.extent.stop⟩⟩
  literal := by
    rw [hmaps.literal]
    cases hliteral : n.literal? with
    | none => rfl
    | some v =>
      obtain ⟨q, -, hstart, hstop⟩ := hn.literal (by rw [hliteral]; rfl)
      have hlt := hstart.trans hstop
      have hstill : ¬ (n.extent.start = w.start ∧ n.extent.stop = t.extent.start) := by
        rintro ⟨-, heq⟩
        have hinside := h.start_lt_of_inside hn.stop
        rw [heq] at hinside
        exact lt_irrefl _ hinside
      have hnot : ¬ (n.extent.start = w.start ∧ n.extent.stop = w.oldStop) := by
        rintro ⟨heq, -⟩
        have hle := (h.le_stop_of_inside hn.stop).trans hbefore
        rw [← heq] at hle
        exact lt_irrefl _ (hlt.trans_le hle)
      exact congrArg some ((if_neg hstill).trans (if_neg hnot).symm)
  spot := hmaps.spot

theorem siteMaps_of_still (h : FieldOf t p f tokens) (hbefore : t.extent.stop ≤ w.start)
    {c c' : Node.CallSite} (hc : h.text.BoundsCall c)
    (hmaps : (w.still t.extent.start).SiteMaps c c') : w.SiteMaps c c' where
  extent := ⟨.inl ⟨(h.le_stop_of_inside hc.start).trans hbefore, maps_still hmaps.extent.start⟩,
    .inl ⟨(h.le_stop_of_inside hc.stop).trans hbefore, maps_still hmaps.extent.stop⟩⟩
  name := hmaps.name
  arguments := by
    have hboth := (List.forall₂_and_left ..).2 ⟨hc.arguments, hmaps.arguments⟩
    exact hboth.imp fun _ _ ha => h.argumentMaps_of_still hbefore ha.1 ha.2

end FieldOf

end Rewriting

namespace Parser

open Rewriting (FieldOf IsFieldOf)

/-! ## Grammars that read alike -/

/-- Both grammars read alike what streams that cost at most `n` begin with. The nodes of
the first one lie where they were read. -/
structure Reach (n : Nat) (g g' : Grammar) : Prop where
  goals : ∀ w goal, Agrees w n 1 w.NodeMaps (g goal) (g' goal)
  faithful : Faithful g

/-- Both grammars read alike what streams begin with that are cheaper by a token. -/
structure Inner (n : Nat) (g g' : Grammar) : Prop where
  reach : ∀ m, m + 2 ≤ n → Reach m g g'
  faithful : Faithful g

/-- Both grammars read alike the expressions that streams begin with, and what streams begin
with that are cheaper by a token. -/
structure Ahead (n : Nat) (g g' : Grammar) : Prop extends Inner n g g' where
  expression : ∀ w, Agrees w n 1 w.NodeMaps (g .expression) (g' .expression)

theorem Reach.mono {n m : Nat} {g g' : Grammar} (h : Reach n g g') (hm : m ≤ n) :
    Reach m g g' where
  goals := fun w goal => (h.goals w goal).mono (Nat.le_refl 1) hm
  faithful := h.faithful

theorem Reach.inner {n : Nat} {g g' : Grammar} (h : Reach n g g') : Inner n g g' where
  reach := fun _ hm => h.mono (by omega)
  faithful := h.faithful

theorem Reach.ahead {n : Nat} {g g' : Grammar} (h : Reach n g g') : Ahead n g g' where
  toInner := h.inner
  expression := fun w => h.goals w .expression

variable {g g' : Grammar} {w : Rewriting} {n k : Nat}

/-! ## Fields of pieces -/

/-- The expressions of two fields have corresponding calls if what is found in their tokens
does. -/
theorem fieldExpression_agrees {f f' : Literal.Field} {tokens tokens' : List Token}
    (hlexed : lexAt? f.position ('(' :: f.source ++ [')', '\n']) = some tokens)
    (hlexed' : lexAt? f'.position ('(' :: f'.source ++ [')', '\n']) = some tokens')
    {w₀ : Rewriting} (hs : w₀.StreamMaps ⟨tokens, f.position⟩ ⟨tokens', f'.position⟩)
    (hn : costs tokens ≤ n) (hn' : costs tokens' ≤ n)
    (hg : Agrees w₀ n 1 w₀.NodeMaps (g .starExpressions) (g' .starExpressions))
    (hcalls : ∀ m m' s, g .starExpressions ⟨tokens, f.position⟩ = some (m, s) →
      w₀.NodeMaps m m' → List.Forall₂ w.SiteMaps m.calls m'.calls) :
    Agrees w k 0 (fun m m' => List.Forall₂ w.SiteMaps m.calls m'.calls)
      (fieldExpression g f) (fieldExpression g' f') := by
  intro s s' hstreams _ _
  have hread := hg hs hn hn'
  unfold fieldExpression
  rw [hlexed, hlexed']
  dsimp only
  generalize hfound : g .starExpressions ⟨tokens, f.position⟩ = a at hread
  generalize g' .starExpressions ⟨tokens', f'.position⟩ = b at hread
  cases hread with
  | failed => exact .failed
  | read hnode _ _ _ => exact .read (hcalls _ _ _ hfound hnode) hstreams (.refl s) (.refl s')

/-- Two lists of nodes whose calls correspond. -/
def CallsMap (w : Rewriting) (ns ns' : List Node) : Prop :=
  List.Forall₂ w.SiteMaps (Node.callsOf ns) (Node.callsOf ns')

theorem callsMap_nil : CallsMap w [] [] := .nil

theorem callsMap_append {ns ns' ms ms' : List Node} (h : CallsMap w ns ns')
    (h' : CallsMap w ms ms') : CallsMap w (ns ++ ms) (ns' ++ ms') := by
  rw [CallsMap, Node.callsOf_append, Node.callsOf_append]
  exact List.rel_append h h'

theorem callsMap_of_forall {ns ns' : List Node}
    (h : List.Forall₂ (fun m m' => List.Forall₂ w.SiteMaps m.calls m'.calls) ns ns') :
    CallsMap w ns ns' := by
  induction h with
  | nil => exact callsMap_nil
  | cons hm _ ih => exact List.rel_append hm ih

variable {t t' : Token} {p : Literal.Piece} {r : Text}

/-- The fields of two pieces have corresponding calls if they are the same fields, perhaps
elsewhere, and their expressions have corresponding calls. -/
theorem pieceFields_agrees (move : Literal.Field → Literal.Field)
    (hfields : Literal.fields? p.isRaw p.body
        (t'.extent.start.after (t'.text.take (p.letters.length + p.quoteWidth))) =
      (Literal.fields? p.isRaw p.body
        (t.extent.start.after (t.text.take (p.letters.length + p.quoteWidth)))).map (List.map move))
    (hf : ∀ f, IsFieldOf t p f → Agrees w n 0
      (fun m m' => List.Forall₂ w.SiteMaps m.calls m'.calls ∧ True)
      (fieldExpression g f) (fieldExpression g' (move f))) :
    Agrees w n 0 (CallsMap w) (pieceFields g t p) (pieceFields g' t' p) := by
  have hboth : Option.Rel (List.Forall₂ fun f f' => IsFieldOf t p f ∧ f' = move f)
      (Literal.fields? p.isRaw p.body
        (t.extent.start.after (t.text.take (p.letters.length + p.quoteWidth))))
      (Literal.fields? p.isRaw p.body
        (t'.extent.start.after (t'.text.take (p.letters.length + p.quoteWidth)))) := by
    rw [hfields]
    cases hfound : Literal.fields? p.isRaw p.body
        (t.extent.start.after (t.text.take (p.letters.length + p.quoteWidth))) with
    | none => exact .none
    | some fields =>
      refine .some ?_
      rw [List.forall₂_map_right_iff]
      exact List.forall₂_same.2 fun f hf => ⟨⟨fields, hfound, hf⟩, rfl⟩
  refine (Agrees.ofOption hboth).bind fun fields fields' hfields => ?_
  refine (Agrees.mapM (P := fun _ _ => True) hfields ?_).imp fun _ _ h => callsMap_of_forall h.1
  rintro f _ ⟨hmem, rfl⟩
  exact hf f hmem

/-- A field of a piece is read where its expression is a sequence of tokens. -/
theorem fieldExpression_eq_none {f : Literal.Field}
    (h : lexAt? f.position ('(' :: f.source ++ [')', '\n']) = none) :
    fieldExpression g f = failure := by
  funext s
  unfold fieldExpression
  rw [h]
  rfl

/-- The fields of a piece behind the literal have corresponding calls. -/
theorem pieceFields_moved (hg : Inner n g g') (hkind : t.kind = .string)
    (hstop : t.extent.stop = t.extent.start.after t.text) (hbehind : w.oldStop ≤ t.extent.start)
    (hspots : ∀ e : Extent, t.extent.start < e.start → e.stop ≤ t.extent.stop → w.spots e)
    (hn : t.cost ≤ n) (hpiece : Literal.splitPiece? t.text = some (p, r))
    (hformatted : p.isFormatted = true) :
    Agrees w n 0 (CallsMap w) (pieceFields g t p) (pieceFields g' (w.moved t) p) := by
  refine pieceFields_agrees w.movedField ?_ fun f hf => ?_
  · rw [← Rewriting.fields?_shift _ _ (hbehind.trans (Position.le_after _ _)),
      Rewriting.shift_after hbehind]
    rfl
  · obtain ⟨fields, hfields, hmem⟩ := hf
    have hle : w.oldStop ≤ f.position :=
      hbehind.trans (Token.Lexed.start_lt_of_field hpiece hfields hmem).le
    have hmoved := Rewriting.lexAt?_shift hle ('(' :: f.source ++ [')', '\n'])
    cases hlexed : lexAt? f.position ('(' :: f.source ++ [')', '\n']) with
    | none =>
      rw [hlexed] at hmoved
      rw [fieldExpression_eq_none hlexed, fieldExpression_eq_none hmoved]
      exact .failure
    | some tokens =>
      rw [hlexed] at hmoved
      have hfield : FieldOf t p f tokens :=
        ⟨hkind, hstop, hformatted, ⟨r, hpiece⟩, ⟨fields, hfields, hmem⟩, hlexed⟩
      have hcosts := hfield.costs_le
      have hsame : costs (tokens.map w.moved) = costs tokens := by
        unfold costs
        rw [List.foldr_map]
        rfl
      have hstreams : w.StreamMaps ⟨tokens, f.position⟩ ⟨tokens.map w.moved, w.shift f.position⟩ :=
        ⟨hfield.tokensMap_moved hbehind hspots, .inr ⟨hle, rfl⟩⟩
      have hread := (hg.reach (costs tokens) (by omega)).goals w .starExpressions
      exact (fieldExpression_agrees hlexed hmoved hstreams (Nat.le_refl _) hsame.le hread
        fun _ _ _ _ h => h.calls).imp fun _ _ h => ⟨h, trivial⟩

/-- The fields of a piece in front of the literal have corresponding calls. -/
theorem pieceFields_kept (hg : Inner n g g') (hkind : t.kind = .string)
    (hstop : t.extent.stop = t.extent.start.after t.text) (hbefore : t.extent.stop ≤ w.start)
    (hspots : ∀ e : Extent, t.extent.start < e.start → e.stop ≤ t.extent.stop → w.spots e)
    (hn : t.cost ≤ n) (hpiece : Literal.splitPiece? t.text = some (p, r))
    (hformatted : p.isFormatted = true) :
    Agrees w n 0 (CallsMap w) (pieceFields g t p) (pieceFields g' t p) := by
  refine pieceFields_agrees id (by simp) fun f hf => ?_
  obtain ⟨fields, hfields, hmem⟩ := hf
  cases hlexed : lexAt? f.position ('(' :: f.source ++ [')', '\n']) with
  | none =>
    rw [id, fieldExpression_eq_none hlexed, fieldExpression_eq_none hlexed]
    exact .failure
  | some tokens =>
    have hfield : FieldOf t p f tokens :=
      ⟨hkind, hstop, hformatted, ⟨r, hpiece⟩, ⟨fields, hfields, hmem⟩, hlexed⟩
    have hcosts := hfield.costs_le
    have hle := hfield.start_lt.le
    have hstreams : (w.still t.extent.start).StreamMaps ⟨tokens, f.position⟩
        ⟨tokens, f.position⟩ :=
      ⟨hfield.tokensMap_still hbefore hspots, .inr ⟨hle, (Rewriting.shift_still hle).symm⟩⟩
    have hread := (hg.reach (costs tokens) (by omega)).goals (w.still t.extent.start)
      .starExpressions
    refine (fieldExpression_agrees (w := w) hlexed hlexed hstreams (Nat.le_refl _) (Nat.le_refl _)
      hread fun m m' s hfound hmaps => ?_).imp fun _ _ h => ⟨h, trivial⟩
    -- The calls that the first grammar finds lie in the field, so none of them is moved.
    obtain ⟨-, -, hholds⟩ := hg.faithful.operand hfield.text .starExpressions nofun
      (TokenStream.of_tokens hfield.text) hfound
    have hboth := (List.forall₂_and_left ..).2 ⟨hholds.calls, hmaps.calls⟩
    exact hboth.imp fun _ _ hc => hfield.siteMaps_of_still hbefore hc.1 hc.2

end Parser

end TextDomain
