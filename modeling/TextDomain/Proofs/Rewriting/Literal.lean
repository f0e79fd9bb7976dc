import TextDomain.Proofs.Rewriting.Field

/-!
# String literals that are read alike

A string literal takes a whole run of string tokens. Its pieces are the same in both texts,
or the run is the literal that was written anew: it was plain, and so it is now.

## Main results

* `stringLiteral_agrees` — string literals correspond.
-/

namespace TextDomain

open Token (costs)

namespace Parser

open Rewriting (IsPlainToken StringNext)

variable {α β : Type} {g g' : Grammar} {w : Rewriting} {n : Nat} {s s' : TokenStream}

/-! ## Taking a run -/

/-- Where a run of tokens stands. -/
def runExtent (t : Token) (r : List Token) : Extent :=
  ⟨t.extent.start, (r.getLast?.map (·.extent.stop)).getD t.extent.stop⟩

theorem getLast?_stop (t : Token) (r : List Token) (last : Position) :
    ((t :: r).getLast?.map (·.extent.stop)).getD last =
      (r.getLast?.map (·.extent.stop)).getD t.extent.stop := by
  rw [List.getLast?_cons]
  cases r.getLast? <;> rfl

theorem manyWithin_run {r ts : List Token} (hstrings : ∀ t ∈ r, t.kind = .string)
    (hends : ¬ StringNext ts) (last : Position) {clock : List Token}
    (hclock : r.length ≤ clock.length) :
    manyWithin (ofKind .string) clock ⟨r ++ ts, last⟩ =
      (r, ⟨ts, (r.getLast?.map (·.extent.stop)).getD last⟩) := by
  induction r generalizing clock last with
  | nil =>
    cases clock with
    | nil => rfl
    | cons _ clock =>
      have hnone : ofKind .string ⟨ts, last⟩ = none := by
        cases ts with
        | nil => rfl
        | cons t ts =>
          have ht : (t.kind == TokenKind.string) = false :=
            beq_false_of_ne fun ht => hends (Rewriting.stringNext_cons.2 ht)
          simp [ofKind, token, ht]
      rw [List.nil_append, manyWithin, hnone]
      rfl
  | cons t r ih =>
    obtain ⟨ht, hr⟩ := List.forall_mem_cons.1 hstrings
    cases clock with
    | nil => simp at hclock
    | cons _ clock =>
      have htake : ofKind .string ⟨t :: (r ++ ts), last⟩ = some (t, ⟨r ++ ts, t.extent.stop⟩) := by
        simp [ofKind, token, ht]
      rw [List.cons_append, manyWithin, htake]
      dsimp only
      rw [ih hr _ (by simpa using hclock), getLast?_stop]

/-- A run is taken as a whole. -/
theorem many₁_run {t : Token} {r ts : List Token} (hstrings : ∀ u ∈ t :: r, u.kind = .string)
    (hends : ¬ StringNext ts) (last : Position) :
    many₁ (ofKind .string) ⟨t :: (r ++ ts), last⟩ =
      some (t :: r, ⟨ts, (runExtent t r).stop⟩) := by
  obtain ⟨ht, hr⟩ := List.forall_mem_cons.1 hstrings
  have htake : ofKind .string ⟨t :: (r ++ ts), last⟩ = some (t, ⟨r ++ ts, t.extent.stop⟩) := by
    simp [ofKind, token, ht]
  have hlength : r.length ≤ (r ++ ts).length := by simp
  rw [many₁, bind_apply, htake]
  show ((many (ofKind .string) >>= fun more => pure (t :: more)) : Parser _) _ = _
  rw [bind_apply, many, manyWithin_run hr hends _ hlength]
  rfl

theorem many₁_eq_none (h : ¬ StringNext s.rest) : many₁ (ofKind .string) s = none := by
  have hnone : ofKind .string s = none := by
    obtain ⟨rest, last⟩ := s
    cases rest with
    | nil => rfl
    | cons t ts =>
      have ht : (t.kind == TokenKind.string) = false :=
        beq_false_of_ne fun ht => h (Rewriting.stringNext_cons.2 ht)
      simp [ofKind, token, ht]
  rw [many₁, bind_apply, hnone]
  rfl

/-! ## The literal of a run -/

/-- A token and its piece. -/
def pieceOf (t : Token) : Parser (Token × Literal.Piece) := do
  let (p, _) ← (Literal.splitPiece? t.text : Option _)
  return (t, p)

/-- The value of a piece, or the expressions in its fields. -/
def partOf (g : Grammar) : Token × Literal.Piece → Parser (Text × List Node) := fun (t, p) => do
  if p.isFormatted then return (([] : Text), ← pieceFields g t p)
  else
    let value ← (p.value? : Option _)
    return (value, [])

/-- The literal whose pieces are known. -/
def literalOfPieces (g : Grammar) (e : Extent) (pieces : List (Token × Literal.Piece)) :
    Parser Node := do
  if pieces.all fun (_, p) => p.isBytes then
    check (pieces.all fun (_, p) => p.isReadableBytes)
    return .compound e .other []
  else
    check (!pieces.any fun (_, p) => p.isBytes)
    let parts ← pieces.mapM (partOf g)
    if pieces.any fun (_, p) => p.isFormatted then
      return .compound e .other (parts.flatMap (·.2))
    else return .literal e (parts.flatMap (·.1))

/-- The literal whose tokens are known. -/
def literalOf (g : Grammar) (e : Extent) (tokens : List Token) : Parser Node :=
  tokens.mapM pieceOf >>= literalOfPieces g e

theorem stream_eq_of_pieceOf {t : Token} {x : Token × Literal.Piece}
    (h : pieceOf t s = some (x, s')) : s' = s := by
  unfold pieceOf at h
  cases hpiece : Literal.splitPiece? t.text with
  | none =>
    rw [hpiece] at h
    cases h
  | some r =>
    rw [hpiece] at h
    cases h
    rfl

theorem stream_eq_of_mapM {f : α → Parser β} (hf : ∀ x s y s', f x s = some (y, s') → s' = s)
    {xs : List α} {ys : List β} (h : xs.mapM f s = some (ys, s')) : s' = s := by
  induction xs generalizing s ys with
  | nil =>
    rw [List.mapM_nil] at h
    cases h
    rfl
  | cons x xs ih =>
    rw [List.mapM_cons] at h
    obtain ⟨y, s₁, hy, h⟩ := of_bind_eq_some h
    obtain ⟨zs, s₂, hzs, h⟩ := of_bind_eq_some h
    cases h
    rw [ih hzs, hf _ _ _ _ hy]

/-- A string literal is the literal of the run that comes next. -/
theorem stringLiteral_eq {t : Token} {r ts : List Token}
    (hstrings : ∀ u ∈ t :: r, u.kind = .string) (hends : ¬ StringNext ts) (last : Position) :
    stringLiteral g ⟨t :: (r ++ ts), last⟩ =
      literalOf g (runExtent t r) (t :: r) ⟨ts, (runExtent t r).stop⟩ := by
  have hliteral : stringLiteral g = here >>= fun start => many₁ (ofKind .string) >>= fun tokens =>
      tokens.mapM pieceOf >>= fun pieces => lastEnd >>= fun stop =>
        literalOfPieces g ⟨start, stop⟩ pieces := rfl
  rw [hliteral, bind_here_apply, bind_apply, many₁_run hstrings hends, Option.bind_some,
    bind_apply, literalOf, bind_apply]
  dsimp only
  cases hpieces : (t :: r).mapM pieceOf ⟨ts, (runExtent t r).stop⟩ with
  | none => rfl
  | some x =>
    obtain ⟨pieces, s₁⟩ := x
    obtain rfl := stream_eq_of_mapM (fun _ _ _ _ => stream_eq_of_pieceOf) hpieces
    rfl

/-! ## Literals that correspond -/

/-- Literals of the same pieces correspond, if neither of them is the one that was written
anew. -/
theorem literalOf_agrees (move : Token → Token) (r : List Token) (e e' : Extent)
    (he : w.ExtentMaps e e')
    (hother : (∀ t ∈ r, IsPlainToken t) → ¬ (e.start = w.start ∧ e.stop = w.oldStop))
    (hspot : (∀ t ∈ r, IsPlainToken t) → w.spots e) (hstrings : ∀ t ∈ r, t.kind = .string)
    (htext : ∀ t ∈ r, (move t).text = t.text)
    (hfields : ∀ t ∈ r, ∀ p rest, Literal.splitPiece? t.text = some (p, rest) →
      p.isFormatted = true →
        Agrees w n 0 (CallsMap w) (pieceFields g t p) (pieceFields g' (move t) p)) :
    Agrees w n 0 w.NodeMaps (literalOf g e r) (literalOf g' e' (r.map move)) := by
  have hsame : List.Forall₂ (fun t t' => t ∈ r ∧ t' = move t) r (r.map move) := by
    rw [List.forall₂_map_right_iff]
    exact List.forall₂_same.2 fun t ht => ⟨ht, rfl⟩
  refine (Agrees.mapM (P := fun t x => x.1 = t ∧ ∃ rest, Literal.splitPiece? t.text =
    some (x.2, rest)) (V := fun x x' => x'.2 = x.2 ∧ x.1 ∈ r ∧ x'.1 = move x.1 ∧
      ∃ rest, Literal.splitPiece? x.1.text = some (x.2, rest)) hsame ?_).bind ?_
  · rintro t _ ⟨ht, rfl⟩
    unfold pieceOf
    rw [htext t ht]
    cases hpiece : Literal.splitPiece? t.text with
    | none => exact .failure
    | some x => exact .pure ⟨⟨rfl, ht, rfl, x.2, hpiece⟩, rfl, x.2, rfl⟩
  · rintro pieces pieces' ⟨hpieces, hfound⟩
    have hall : ∀ q : Literal.Piece → Bool,
        pieces.all (fun x => q x.2) = pieces'.all fun x => q x.2 := by
      intro q
      clear hfound
      induction hpieces with
      | nil => rfl
      | cons hx _ ih => rw [List.all_cons, List.all_cons, ih, hx.1]
    have hany : ∀ q : Literal.Piece → Bool,
        pieces.any (fun x => q x.2) = pieces'.any fun x => q x.2 := by
      intro q
      clear hfound hall
      induction hpieces with
      | nil => rfl
      | cons hx _ ih => rw [List.any_cons, List.any_cons, ih, hx.1]
    refine .dite (hall (·.isBytes)) (fun _ => ?_) fun _ => ?_
    · exact (Agrees.check (hall (·.isReadableBytes))).finish
        fun _ _ _ => Rewriting.nodeMaps_other he .nil
    refine (Agrees.check (congrArg not (hany (·.isBytes)))).bind fun _ _ hbytes => ?_
    refine (Agrees.mapM (P := fun x y => x.2.isFormatted = false → x.2.value? = some y.1)
      (V := fun y y' => y'.1 = y.1 ∧ CallsMap w y.2 y'.2) hpieces ?_).bind ?_
    · rintro ⟨t, p⟩ ⟨t', p'⟩ ⟨hp, ht, ht', rest, hpiece⟩
      obtain rfl : p' = p := hp
      obtain rfl : t' = move t := ht'
      refine .dite rfl (fun hformatted => ?_) fun hformatted => ?_
      · exact (hfields t ht p' rest hpiece hformatted).finish fun _ _ h =>
          ⟨⟨rfl, h⟩, fun hnot => by simp [hformatted] at hnot⟩
      · refine (Agrees.ofOption (V := fun v v' => v' = v ∧ p'.value? = some v) ?_).finish
          fun v v' hv => ⟨⟨hv.1, callsMap_nil⟩, fun _ => hv.2⟩
        cases p'.value? with
        | none => exact .none
        | some v => exact .some ⟨rfl, rfl⟩
    · rintro parts parts' ⟨hparts, hvalues⟩
      refine .dite (hany (·.isFormatted)) (fun _ => ?_) fun hplain => ?_
      · refine .pure (Rewriting.nodeMaps_other he ?_)
        clear hvalues
        induction hparts with
        | nil => exact callsMap_nil
        | cons hy _ ih => exact callsMap_append hy.2 ih
      · have hvalue : parts'.flatMap (·.1) = parts.flatMap (·.1) := by
          clear hvalues
          induction hparts with
          | nil => rfl
          | cons hy _ ih => rw [List.flatMap_cons, List.flatMap_cons, ih, hy.1]
        rw [hvalue]
        have htokens : ∀ t ∈ r, IsPlainToken t := by
          intro t ht
          obtain ⟨⟨t', p⟩, hx, heq, rest, hpiece⟩ := hfound t ht
          obtain rfl : t' = t := heq
          have hformatted : p.isFormatted = false :=
            Bool.eq_false_iff.2 (List.any_eq_false.1 hplain _ hx)
          have hbytes : (pieces.any fun x => x.2.isBytes) = false := Bool.not_eq_true' _ ▸ hbytes
          have hbytes : p.isBytes = false := Bool.eq_false_iff.2 (List.any_eq_false.1 hbytes _ hx)
          obtain ⟨y, -, hy⟩ := hvalues _ hx
          exact ⟨hstrings t' ht, p, rest, y.1, hpiece, hbytes, hformatted, hy hformatted⟩
        exact .pure (Rewriting.nodeMaps_literal he
          (congrArg some (if_neg (hother htokens)).symm) (hspot htokens))

/-! ## Plain literals -/

theorem mapM_eq_some {f : α → Parser β} {Q : β → Prop} {xs : List α}
    (h : ∀ x ∈ xs, ∃ y, f x s = some (y, s) ∧ Q y) :
    ∃ ys, xs.mapM f s = some (ys, s) ∧ ys.length = xs.length ∧ ∀ y ∈ ys, Q y := by
  induction xs with
  | nil =>
    rw [List.mapM_nil]
    exact ⟨[], rfl, rfl, nofun⟩
  | cons x xs ih =>
    obtain ⟨⟨y, hy, hq⟩, hxs⟩ := List.forall_mem_cons.1 h
    obtain ⟨ys, hys, hlength, hqs⟩ := ih hxs
    refine ⟨y :: ys, ?_, by rw [List.length_cons, List.length_cons, hlength],
      List.forall_mem_cons.2 ⟨hq, hqs⟩⟩
    rw [List.mapM_cons, bind_apply, hy, Option.bind_some, bind_apply, hys]
    rfl

theorem partOf_plain {t : Token} {p : Literal.Piece} {v : Text} (hformatted : p.isFormatted = false)
    (hvalue : p.value? = some v) : partOf g (t, p) s = some ((v, []), s) := by
  unfold partOf
  dsimp only
  rw [if_neg (by simp [hformatted]), hvalue]
  rfl

/-- The literal of plain pieces has a value. -/
theorem literalOfPieces_plain {pieces : List (Token × Literal.Piece)} (hne : pieces ≠ [])
    (hplain : ∀ x ∈ pieces, x.2.isBytes = false ∧ x.2.isFormatted = false)
    {parts : List (Text × List Node)} (hparts : pieces.mapM (partOf g) s = some (parts, s))
    (e : Extent) :
    literalOfPieces g e pieces s = some (.literal e (parts.flatMap (·.1)), s) := by
  obtain ⟨x, hx⟩ := List.exists_mem_of_ne_nil pieces hne
  have hbytes : (pieces.all fun (_, p) => p.isBytes) = false :=
    List.all_eq_false.2 ⟨x, hx, by simp [(hplain x hx).1]⟩
  have hnone : (pieces.any fun (_, p) => p.isBytes) = false :=
    List.any_eq_false.2 fun x hx => by simp [(hplain x hx).1]
  have hformatted : (pieces.any fun (_, p) => p.isFormatted) = false :=
    List.any_eq_false.2 fun x hx => by simp [(hplain x hx).2]
  rw [literalOfPieces, hbytes, hnone, hformatted]
  show ((pure () >>= fun _ => pieces.mapM (partOf g) >>= fun parts =>
    pure (.literal e (parts.flatMap (·.1)))) : Parser Node) s = _
  rw [pure_bind, bind_apply, hparts]
  rfl

/-- The literal of a plain run has a value. -/
theorem literalOf_plain {r : List Token} (hne : r ≠ []) (hplain : ∀ t ∈ r, IsPlainToken t)
    (e : Extent) : ∃ v, literalOf g e r s = some (.literal e v, s) := by
  have hpiece : ∀ t ∈ r, ∃ x, pieceOf t s = some (x, s) ∧
      (x.2.isBytes = false ∧ x.2.isFormatted = false ∧ ∃ v, x.2.value? = some v) := by
    intro t ht
    obtain ⟨-, p, rest, v, hsplit, hbytes, hformatted, hvalue⟩ := hplain t ht
    refine ⟨(t, p), ?_, hbytes, hformatted, v, hvalue⟩
    unfold pieceOf
    rw [hsplit]
    rfl
  obtain ⟨pieces, hpieces, hlength, hall⟩ := mapM_eq_some hpiece
  have hpart : ∀ x ∈ pieces, ∃ y, partOf g x s = some (y, s) ∧ True := by
    rintro ⟨t, p⟩ hx
    obtain ⟨-, hformatted, v, hvalue⟩ := hall _ hx
    exact ⟨_, partOf_plain hformatted hvalue, trivial⟩
  obtain ⟨parts, hparts, -⟩ := mapM_eq_some hpart
  have hne : pieces ≠ [] := List.ne_nil_of_length_pos (hlength ▸ List.length_pos_iff.2 hne)
  refine ⟨parts.flatMap (·.1), ?_⟩
  rw [literalOf, bind_apply, hpieces]
  exact literalOfPieces_plain hne (fun x hx => ⟨(hall x hx).1, (hall x hx).2.1⟩) hparts e

/-- The value of a literal of one plain piece is that of the piece. -/
theorem literalOf_singleton {t : Token} {p : Literal.Piece} {rest v : Text}
    (hpiece : Literal.splitPiece? t.text = some (p, rest)) (hbytes : p.isBytes = false)
    (hformatted : p.isFormatted = false) (hvalue : p.value? = some v) (e : Extent) :
    literalOf g e [t] s = some (.literal e v, s) := by
  have hpieces : [t].mapM pieceOf s = some ([(t, p)], s) := by
    rw [List.mapM_cons, List.mapM_nil, pieceOf, hpiece]
    rfl
  have hparts : [(t, p)].mapM (partOf g) s = some ([(v, [])], s) := by
    rw [List.mapM_cons, List.mapM_nil, bind_apply, partOf_plain hformatted hvalue]
    rfl
  rw [literalOf, bind_apply, hpieces]
  have hread := literalOfPieces_plain (List.cons_ne_nil _ _)
    (List.forall_mem_singleton.2 ⟨hbytes, hformatted⟩) hparts e
  simpa using hread

/-! ## String literals -/

open Rewriting (RunMaps RunSpots Leaves)

theorem exists_last (t : Token) (r : List Token) :
    ∃ last ∈ t :: r, (t :: r).getLast? = some last ∧ (runExtent t r).stop = last.extent.stop := by
  obtain ⟨last, hlast⟩ : ∃ last, (t :: r).getLast? = some last :=
    ⟨_, List.getLast?_eq_some_getLast (List.cons_ne_nil t r)⟩
  refine ⟨last, List.mem_of_getLast? hlast, hlast, ?_⟩
  show (r.getLast?.map _).getD _ = _
  rw [← getLast?_stop t r t.extent.stop, hlast]
  rfl

/-- Corresponding runs stand at corresponding places. -/
theorem extent_of_runMaps {t t' : Token} {r r' : List Token}
    (h : w.RunMaps (t :: r) (t' :: r')) : w.ExtentMaps (runExtent t r) (runExtent t' r') := by
  obtain ⟨last, hmem, hlast, hstop⟩ := exists_last t r
  refine ⟨h.start, ?_⟩
  cases h with
  | kept before =>
    rw [hstop]
    exact .inl ⟨(before last hmem).2.1, rfl⟩
  | moved behind =>
    obtain ⟨hle, hends⟩ := behind last hmem
    have hmoved : (runExtent (w.moved t) (r.map w.moved)).stop = w.shift last.extent.stop := by
      rw [← hstop, runExtent, runExtent, List.getLast?_map]
      cases r.getLast? <;> rfl
    rw [hstop, hmoved, hends]
    exact .inr ⟨hle.trans (Position.le_after _ _), rfl⟩
  | rewritten _ stop _ _ extent =>
    rw [hlast] at stop
    have hends : last.extent.stop = w.oldStop := Option.some.inj stop
    rw [hstop, hends]
    show w.Maps _ t'.extent.stop
    rw [extent]
    exact .inr ⟨le_refl w.oldStop, Rewriting.shift_oldStop.symm⟩

theorem ne_nil_of_isPlainToken {t : Token} (h : IsPlainToken t) : t.text ≠ [] := by
  obtain ⟨-, p, rest, -, hpiece, -⟩ := h
  intro hnil
  rw [hnil] at hpiece
  cases hpiece

/-- The literals of corresponding runs correspond. -/
theorem literalOf_run (hg : Inner n g g') {t t' : Token} {r r' : List Token}
    (hmaps : w.RunMaps (t :: r) (t' :: r')) (hspots : w.RunSpots (t :: r))
    (hstrings : ∀ u ∈ t :: r, u.kind = .string) (hn : costs (t :: r) ≤ n) :
    Agrees w n 0 w.NodeMaps (literalOf g (runExtent t r) (t :: r))
      (literalOf g' (runExtent t' r') (t' :: r')) := by
  obtain ⟨last, hmem, hlast, hstop⟩ := exists_last t r
  have hcost : ∀ u ∈ t :: r, u.cost ≤ n := fun u hu => (Token.cost_le_costs hu).trans hn
  have hextent := extent_of_runMaps hmaps
  have hspot : (∀ u ∈ t :: r, IsPlainToken u) → w.spots (runExtent t r) := by
    intro hplain
    have hwhole := hspots.whole hplain t rfl last hlast
    rw [← hstop] at hwhole
    exact hwhole
  cases hmaps with
  | kept before =>
    have hagrees := literalOf_agrees id (t :: r) _ _ hextent
      (fun _ h => (before t (List.mem_cons_self ..)).1.ne h.1) hspot hstrings (fun _ _ => rfl)
      fun u hu p rest hpiece hformatted => pieceFields_kept hg (hstrings u hu) (before u hu).2.2
        (before u hu).2.1 (hspots.fields u hu ⟨hstrings u hu, p, rest, hpiece, hformatted⟩)
        (hcost u hu) hpiece hformatted
    rw [List.map_id] at hagrees
    exact hagrees
  | moved behind =>
    refine literalOf_agrees w.moved (t :: r) _ _ hextent ?_ hspot hstrings (fun _ _ => rfl)
      fun u hu p rest hpiece hformatted => pieceFields_moved hg (hstrings u hu) (behind u hu).2
        (behind u hu).1 (hspots.fields u hu ⟨hstrings u hu, p, rest, hpiece, hformatted⟩)
        (hcost u hu) hpiece hformatted
    rintro hplain ⟨-, heq⟩
    obtain ⟨hle, hends⟩ := behind last hmem
    have hlt := Position.lt_after (p := last.extent.start)
      (ne_nil_of_isPlainToken (hplain last hmem))
    rw [hstop, hends] at heq
    rw [heq] at hlt
    exact absurd hle (not_le.2 hlt)
  | rewritten start stop plain kind extent piece isBytes isFormatted value =>
    intro s s' hs _ _
    obtain ⟨v, hv⟩ := literalOf_plain (g := g) (s := s) (List.cons_ne_nil t r) plain
      (runExtent t r)
    rw [hv, literalOf_singleton piece isBytes isFormatted value]
    have hstart : t.extent.start = w.start := Option.some.inj start
    have hends : last.extent.stop = w.oldStop := by
      rw [hlast] at stop
      exact Option.some.inj stop
    exact .read (Rewriting.nodeMaps_literal hextent
      (congrArg some (if_pos ⟨hstart, hstop.trans hends⟩).symm) (hspot plain)) hs (.refl s)
      (.refl s')

/-- A run is left behind. -/
theorem leaves_run (t : Token) (r ts : List Token) (p q : Position) :
    Leaves 1 ⟨ts, p⟩ ⟨t :: (r ++ ts), q⟩ where
  suffix := (List.suffix_append r ts).trans (List.suffix_cons t _)
  length := by
    simp only [List.length_cons, List.length_append]
    omega

/-- String literals correspond. -/
theorem stringLiteral_agrees (hg : Inner n g g') :
    Agrees w n 1 w.NodeMaps (stringLiteral g) (stringLiteral g') := by
  have hnone : ∀ {g : Grammar} {s : TokenStream}, ¬ StringNext s.rest →
      stringLiteral g s = none := by
    intro g s h
    rw [stringLiteral, bind_here_apply, bind_apply, many₁_eq_none h]
    rfl
  intro s s' hs hn hn'
  obtain ⟨rest, last⟩ := s
  obtain ⟨rest', last'⟩ := s'
  cases hs.tokens with
  | nil =>
    rw [hnone Rewriting.not_stringNext_nil, hnone Rewriting.not_stringNext_nil]
    exact .failed
  | other kind token =>
    rw [hnone fun h => kind (Rewriting.stringNext_cons.1 h),
      hnone fun h => kind (token.kind ▸ Rewriting.stringNext_cons.1 h)]
    exact .failed
  | @run r r' ts ts' strings strings' ne_nil ne_nil' ends ends' maps spots rest =>
    cases r with
    | nil => exact absurd rfl ne_nil
    | cons t r =>
      cases r' with
      | nil => exact absurd rfl ne_nil'
      | cons t' r' =>
        show Outcome w 1 w.NodeMaps ⟨t :: (r ++ ts), last⟩ ⟨t' :: (r' ++ ts'), last'⟩
          (stringLiteral g ⟨t :: (r ++ ts), last⟩) (stringLiteral g' ⟨t' :: (r' ++ ts'), last'⟩)
        have hleaves := leaves_run t r ts (runExtent t r).stop last
        have hleaves' := leaves_run t' r' ts' (runExtent t' r').stop last'
        have hcosts : costs (t :: r) ≤ n := by
          have hall := Token.costs_append (t :: r) ts
          have : costs ((t :: r) ++ ts) ≤ n := hn
          omega
        rw [stringLiteral_eq strings ends, stringLiteral_eq strings' ends']
        exact ((literalOf_run hg maps spots strings hcosts)
          ⟨rest, (extent_of_runMaps maps).stop⟩ (hleaves.costs_le_of_le hn)
          (hleaves'.costs_le_of_le hn')).behind hleaves hleaves'

end Parser

end TextDomain
