import Mathlib.Data.List.Chain
import TextDomain.Proofs.Grammar.Phrase

/-!
# Where the calls of expressions lie

One lemma for each rule of `Source.Grammar.Expression`: if the grammar for the
phrases inside gives nodes that lie where they were read, so does the rule. What
is read between quotes, in the fields of formatted strings, is read from another
text; its positions are positions in the text around it.

No call inside an atom begins where the atom does, since an atom with parts begins
with a sign or a quote. So among the calls of a primary only those begin with it that
are called in turn, and each of them ends before the next one does.

## Main results

* `expression_phrase` — an expression lies within what was read.
* `argumentsIn_reads` — the positional arguments of a call lie apart.
* `stringLiteral_headed` — a string literal has a character between its ends.
* `primary_phrase` — a call leads what is called and what is passed to it.
-/

namespace TextDomain

namespace Parser

open Token (Lexed isLayoutKind)
open TokenStream (Advances Follows Anywhere)

/-- A grammar whose nodes lie where they were read, whatever the text. -/
structure Faithful (g : Grammar) : Prop where
  expression (l : Lexed) : Phrase l (g .expression)
  operand (l : Lexed) (goal : Goal) (h : goal ≠ .block) : Reads l (Follows l) (g goal) l.Holds
  block (l : Lexed) : Reads l Anywhere (g .block) l.Holds

variable {g : Grammar} (hg : Faithful g) (l : Lexed)

/-! ## Names, starred and named expressions -/

theorem comparisonOperator_reads :
    Reads l (Advances l) comparisonOperator fun _ => True :=
  .orElse (.oneSign _) (.orElse (.word _) (.orElse ((Reads.word _).after (.word _))
    (.orElse ((Reads.word _).after (.word _)) (.word _))))

theorem nameNode_headed : Headed l nameNode :=
  .ofToken solid_isIdentifier (fun _ => rfl) (fun _ => rfl) (fun _ => Lexed.holds_name _ _)
    fun _ => rfl

theorem nameNode_phrase : Phrase l nameNode := (nameNode_headed l).phrase

include hg

theorem namedExpression_phrase : Phrase l (namedExpression g) := by
  refine Phrase.branch (Reads.nameThenSign _) (.compound ?_) (hg.expression l)
  refine (nameNode_phrase l).reads.then fun name hname => ?_
  refine (Reads.sign _).bind fun _ _ => ?_
  exact (hg.expression l).reads.finish fun n hn => by simp [hname, hn]

theorem starredOperand_phrase : Phrase l (starredOperand g) :=
  .compound ((Reads.sign _).then fun _ _ =>
    (hg.operand l .bitwiseOr nofun).finish fun n hn => by simpa using hn)

theorem starExpression_phrase : Phrase l (starExpression g) :=
  .branch (.signNext _) (starredOperand_phrase hg l) (hg.expression l)

theorem starNamedExpression_phrase : Phrase l (starNamedExpression g) :=
  .branch (.signNext _) (starredOperand_phrase hg l) (namedExpression_phrase hg l)

theorem yieldExpression_phrase : Phrase l (yieldExpression g) := by
  refine .compound ((Reads.word _).then fun _ _ => ?_)
  refine (Reads.wordNext _).branch ?_ ?_
  · refine (Reads.word _).bind fun _ _ => ?_
    exact (hg.expression l).reads.finish fun n hn => by simpa using hn
  · exact (hg.operand l .starExpressions nofun).optional.finish fun n? hn => by simpa using hn

/-! ## Targets and comprehensions -/

theorem target_reads : Reads l (Follows l) (target g) l.Holds := by
  have hcheck : ∀ n, l.Holds n →
      Reads l (Follows l) (check n.isTarget >>= fun _ => pure n) l.Holds :=
    fun n hn => (Reads.check _).bind fun _ _ => .pure hn
  have hprimary := hg.operand l .primary nofun
  refine (Reads.signNext _).branch ?_ (hprimary.bind hcheck)
  refine Reads.bind (R := Follows l) (.compound ?_) hcheck
  exact (Reads.sign _).bind fun _ _ => hprimary.finish fun n hn => by simpa using hn

theorem targets_reads : Reads l (Follows l) (targets g) l.Holds := (target_reads hg l).tupled

omit hg in
theorem comprehensionNext_reads : Reads l Eq comprehensionNext fun _ => True :=
  (Reads.wordNext _).bind fun _ _ => (Reads.wordNext _).ignore.finish fun _ _ => trivial

theorem comprehensionClause_reads :
    Reads l (Follows l) (comprehensionClause g) fun ns => ∀ n ∈ ns, l.Holds n := by
  refine (Reads.word _).optional.bind fun _ _ => ?_
  refine (Reads.word _).bind fun _ _ => ?_
  refine (targets_reads hg l).bind fun target htarget => ?_
  refine (Reads.word _).bind fun _ _ => ?_
  have hdisjunction := hg.operand l .disjunction nofun
  refine hdisjunction.bind fun source hsource => ?_
  have hcondition : Reads l (Follows l) (word "if" *> g .disjunction) l.Holds :=
    (Reads.word _).after hdisjunction
  exact hcondition.many.finish fun conditions hconditions => by
    simpa [htarget, hsource] using hconditions

omit hg in
theorem holds_flatten {nss : List (List Node)} (h : ∀ ns ∈ nss, ∀ n ∈ ns, l.Holds n) :
    ∀ n ∈ nss.flatten, l.Holds n := by
  intro n hn
  obtain ⟨ns, hns, hn⟩ := List.mem_flatten.1 hn
  exact h ns hns n hn

theorem comprehension_reads :
    Reads l (Follows l) (comprehension g) fun ns => ∀ n ∈ ns, l.Holds n :=
  (comprehensionClause_reads hg l).many₁.finish fun _ => holds_flatten l

/-! ## String literals -/

/-- The calls in a node lie in the text, and they begin behind a position. -/
structure HoldsBehind (p : Position) (n : Node) : Prop where
  holds : l.Holds n
  behind : ∀ c ∈ n.calls, p < c.extent.start

omit hg in
variable {l} in
theorem HoldsBehind.mono {p q : Position} {n : Node} (h : HoldsBehind l q n) (hle : p ≤ q) :
    HoldsBehind l p n :=
  { h with behind := fun c hc => hle.trans_lt (h.behind c hc) }

/-- The expressions in the fields of a piece are read from texts of their own,
inside the text of the piece. -/
theorem pieceFields_reads {t : Token} (ht : t ∈ l.tokens) {p : Literal.Piece} {r : Text}
    (hpiece : Literal.splitPiece? t.text = some (p, r)) :
    Reads l Eq (pieceFields g t p) fun ns => ∀ n ∈ ns, HoldsBehind l t.extent.start n := by
  refine (Reads.ofOption _).bind fun fields hfields => ?_
  refine .mapM fun f hf => ?_
  intro s hs n s' h
  unfold fieldExpression at h
  split at h
  next => cases h
  next tokens htokens =>
    obtain ⟨⟨n', s₁⟩, hread, heq⟩ := Option.map_eq_some_iff.1 h
    cases heq
    let l' := Lexed.ofField f htokens
    obtain ⟨-, -, hn⟩ := hg.operand l' .starExpressions nofun (TokenStream.of_tokens l') hread
    have hlt := Lexed.start_lt_of_field hpiece hfields hf
    -- What is found in the field begins behind its first token, and that behind the quote.
    have hfirst : ∀ q, l'.Behind q → t.extent.start < q := by
      intro q hq
      obtain ⟨u, hu, hle⟩ := hq
      exact hlt.trans_le ((l'.runs.le_start hu).trans hle)
    refine ⟨hs, rfl, hn.mono ?_ ?_, fun c hc => hfirst _ (hn.calls c hc).behind⟩
    · exact fun q hq => Lexed.inside_of_field ht hpiece hfields hf htokens hq
    · exact fun q hq => ⟨t, ht, (hfirst q hq).le⟩

/-- The value of a piece, or the expressions in its fields. -/
theorem piece_reads {t : Token} (ht : t ∈ l.tokens) {p : Literal.Piece} {r : Text}
    (hpiece : Literal.splitPiece? t.text = some (p, r)) :
    Reads l Eq (do
      if p.isFormatted then return (([] : Text), ← pieceFields g t p)
      else
        let value ← (p.value? : Option _)
        return (value, [])) fun part => ∀ n ∈ part.2, HoldsBehind l t.extent.start n := by
  refine .ite ?_ ?_
  · exact (pieceFields_reads hg l ht hpiece).finish fun _ hns => hns
  · exact (Reads.ofOption _).finish fun _ _ => by simp

omit hg in
/-- Pieces side by side: one of them is first, and it has a character between
its ends. -/
theorem many₁_string {s s' : TokenStream} (hs : s.Of l) {tokens : List Token}
    (h : many₁ (ofKind .string) s = some (tokens, s')) :
    s.Advances l s' ∧ (∀ t ∈ tokens, t ∈ l.tokens ∧ s.position ≤ t.extent.start) ∧
      ∃ p, l.Inside p ∧ s.position < p ∧ p < s'.last := by
  have hstring : ∀ l, Reads l (Advances l) (ofKind .string) fun t => t ∈ l.tokens ∧ _ :=
    fun l => Reads.token (solid_kind rfl)
  obtain ⟨first, s₁, hfirst, h⟩ := of_bind_eq_some h
  obtain ⟨more, s₂, hmore, h⟩ := of_bind_eq_some h
  obtain ⟨rfl, rfl⟩ := of_pure_eq_some h
  obtain ⟨hs₁, hadvances, hmem, hkind⟩ := hstring l hs hfirst
  obtain ⟨-, hfollows, -⟩ := ((hstring l).many (T := Follows l)) hs₁ hmore
  obtain ⟨-, -, hmems⟩ := ((hstring (l.onFrom hs₁.suffix)).many (T := Follows _)) hs₁.onFrom hmore
  have hkind : first.kind = .string := eq_of_beq hkind
  have htakes := takes_of_token hs hfirst (by rw [hkind]; rfl)
  obtain ⟨p, hp, hlt, hlt'⟩ := Lexed.exists_between hmem hkind
  refine ⟨hadvances.trans_follows hfollows, ?_, p, hp, htakes.start ▸ hlt, ?_⟩
  · refine List.forall_mem_cons.2 ⟨⟨hmem, htakes.start.le⟩, fun t ht => ?_⟩
    have hrest : t ∈ s₁.rest := (hmems t ht).1
    exact ⟨hs₁.suffix.subset hrest,
      hadvances.position_lt_last.le.trans (hs₁.runs.le_start hrest)⟩
  · rw [← htakes.stop] at hlt'
    exact hlt'.trans_le (hfollows.last_le_last hs₁)

theorem stringLiteral_headed : Headed l (stringLiteral g) := by
  intro s hs n s' h
  rw [stringLiteral, bind_here_apply] at h
  obtain ⟨tokens, s₁, htokens, h⟩ := of_bind_eq_some h
  obtain ⟨hadvances, hmem, hbetween⟩ := many₁_string l hs htokens
  obtain ⟨pieces, s₂, hpieces, h⟩ := of_bind_eq_some h
  obtain ⟨-, rfl, hall⟩ := Reads.mapM (T := Eq)
    (Q := fun x : Token × Literal.Piece => (x.1 ∈ l.tokens ∧ s.position ≤ x.1.extent.start) ∧
      ∃ r, Literal.splitPiece? x.1.text = some (x.2, r))
    (fun t ht => (Reads.ofOption _).finish fun x hx => ⟨hmem t ht, x.2, hx⟩)
    hadvances.of hpieces
  obtain ⟨stop, s₂, hstop, h⟩ := of_bind_eq_some h
  cases hstop
  -- What is left takes no tokens: it only looks at the pieces.
  have hnode : s'.Of l ∧ s₁ = s' ∧ n.extent = ⟨s.position, s₁.last⟩ ∧
      HoldsBehind l s.position n := by
    have hcompound : ∀ {ns : List Node}, (∀ n ∈ ns, HoldsBehind l s.position n) → ∀ e,
        HoldsBehind l s.position (.compound e .other ns) := by
      intro ns hns e
      refine ⟨Lexed.holds_compound fun n hn => (hns n hn).holds, fun c hc => ?_⟩
      obtain ⟨n, hn, hc⟩ := Node.mem_callsOf.1 hc
      exact (hns n hn).behind c hc
    refine (Reads.ite ?_ ?_ : Reads l Eq _ fun n => n.extent = _ ∧ HoldsBehind l _ n)
      hadvances.of h
    · exact (Reads.check _).bind fun _ _ => .pure ⟨rfl, hcompound (by simp) _⟩
    · refine (Reads.check _).bind fun _ _ => ?_
      refine Reads.bind (R := Eq)
        (P := fun parts => ∀ x ∈ parts, ∀ n ∈ x.2, HoldsBehind l s.position n) (.mapM ?_) ?_
      · intro (t, p) hx
        obtain ⟨⟨ht, hle⟩, r, hpiece⟩ := hall _ hx
        exact (piece_reads hg l ht hpiece).imp fun part hpart n hn => (hpart n hn).mono hle
      · intro parts hparts
        refine .ite (.pure ⟨rfl, hcompound ?_ _⟩) (.pure ⟨rfl, Lexed.holds_literal _ _, nofun⟩)
        intro n hn
        obtain ⟨part, hpart, hn⟩ := List.mem_flatMap.1 hn
        exact hparts part hpart n hn
  obtain ⟨-, rfl, hextent, hholds⟩ := hnode
  exact ⟨⟨hadvances, covers_of_advances hs hadvances hextent hholds.holds fun _ => hbetween⟩,
    hholds.behind⟩

/-! ## Displays -/

/-- Elements after the first, each behind a comma, and perhaps a last comma. -/
theorem moreElements_reads {f : List Node → Parser Node} {s₀ : TokenStream} {p : Position}
    (hf : ∀ more, (∀ n ∈ more, l.Holds n) → Finishes l s₀ p (f more)) :
    Finishes l s₀ p (many (sign "," *> starNamedExpression g) >>= fun more =>
      optional? (sign ",") >>= fun _ => f more) := by
  have helement : Reads l (Advances l) (sign "," *> starNamedExpression g) l.Holds :=
    (Reads.sign _).after (starNamedExpression_phrase hg l).reads
  refine .bind helement.many fun more hmore => ?_
  exact .bind (Reads.sign _).optional fun _ _ => hf more hmore

theorem parenthesized_headed : Headed l (parenthesized g) := by
  refine .afterSign fun l s₀ p => ?_
  refine .branch (.signNext _) (.bind (Reads.sign _) fun _ _ => .closeAt (by simp)) ?_
  refine .branch (.wordNext _) ?_ ?_
  · refine .bindPhrase (yieldExpression_phrase hg l) fun n q hn => ?_
    exact .bind (Reads.sign _) fun _ _ => .pure hn
  refine .bindPhrase (starNamedExpression_phrase hg l) fun first q hfirst => ?_
  refine .branch (comprehensionNext_reads l) ?_ (.branch (.signNext _) ?_ ?_)
  · refine .bind (Reads.check _) fun _ _ => ?_
    refine .bind (comprehension_reads hg l) fun clauses hclauses => ?_
    refine .bind (Reads.sign _) fun _ _ => .closeAt ?_
    simpa [hfirst.holds] using hclauses
  · refine moreElements_reads hg l fun more hmore => ?_
    refine .bind (Reads.sign _) fun _ _ => .closeAt ?_
    simpa [hfirst.holds] using hmore
  · refine .bind (Reads.check _) fun _ _ => ?_
    exact .bind (Reads.sign _) fun _ _ => .pure hfirst

theorem bracketed_headed : Headed l (bracketed g) := by
  refine .afterSign fun l s₀ p => ?_
  refine .branch (.signNext _) (.bind (Reads.sign _) fun _ _ => .closeAt (by simp)) ?_
  refine .bindPhrase (starNamedExpression_phrase hg l) fun first q hfirst => ?_
  refine .branch (comprehensionNext_reads l) ?_ ?_
  · refine .bind (Reads.check _) fun _ _ => ?_
    refine .bind (comprehension_reads hg l) fun clauses hclauses => ?_
    refine .bind (Reads.sign _) fun _ _ => .closeAt ?_
    simpa [hfirst.holds] using hclauses
  · refine moreElements_reads hg l fun more hmore => ?_
    refine .bind (Reads.sign _) fun _ _ => .closeAt ?_
    simpa [hfirst.holds] using hmore

theorem doubleStarred_reads :
    Reads l (Follows l) (doubleStarred g) fun ns => ∀ n ∈ ns, l.Holds n :=
  (Reads.sign _).bind fun _ _ =>
    (hg.operand l .bitwiseOr nofun).finish fun n hn => by simpa using hn

theorem keyValue_reads : Reads l (Follows l) (keyValue g) fun ns => ∀ n ∈ ns, l.Holds n := by
  refine (hg.expression l).reads.bind fun key hkey => ?_
  refine (Reads.sign _).bind fun _ _ => ?_
  exact (hg.expression l).reads.finish fun value hvalue => by simp [hkey, hvalue]

theorem dictionaryRest_reads {first : List Node} (hfirst : ∀ n ∈ first, l.Holds n) :
    Reads l (Follows l) (dictionaryRest g first) fun ns => ∀ n ∈ ns, l.Holds n := by
  have hentry : Reads l (Follows l) (sign "," *> (doubleStarred g <|> keyValue g))
      fun ns => ∀ n ∈ ns, l.Holds n :=
    (Reads.sign _).after ((doubleStarred_reads hg l).orElse (keyValue_reads hg l))
  refine hentry.many.bind fun more hmore => ?_
  exact (Reads.sign _).optional.finish fun _ _ =>
    List.forall_mem_append.2 ⟨hfirst, holds_flatten l hmore⟩

theorem setRest_reads {first : Node} (hfirst : l.Holds first) :
    Reads l (Follows l) (setRest g first) fun ns => ∀ n ∈ ns, l.Holds n := by
  refine (comprehensionNext_reads l).branch ?_ ?_
  · refine (Reads.check _).bind fun _ _ => ?_
    exact (comprehension_reads hg l).finish fun clauses hclauses => by
      simpa [hfirst] using hclauses
  · have helement : Reads l (Advances l) (sign "," *> starNamedExpression g) l.Holds :=
      (Reads.sign _).after (starNamedExpression_phrase hg l).reads
    refine helement.many.bind fun more hmore => ?_
    exact (Reads.sign _).optional.finish fun _ _ => by simpa [hfirst] using hmore

theorem bracedPlain_reads :
    Reads l (Follows l) (bracedPlain g) fun ns => ∀ n ∈ ns, l.Holds n := by
  refine (hg.expression l).reads.bind fun first hfirst => ?_
  refine (Reads.signNext _).branch ?_ (setRest_reads hg l hfirst)
  refine (Reads.sign _).bind fun _ _ => ?_
  refine (hg.expression l).reads.bind fun value hvalue => ?_
  refine (comprehensionNext_reads l).branch ?_
    (dictionaryRest_reads hg l (by simp [hfirst, hvalue]))
  exact (comprehension_reads hg l).finish fun clauses hclauses => by
    simpa [hfirst, hvalue] using hclauses

theorem bracedParts_reads :
    Reads l (Follows l) (bracedParts g) fun ns => ∀ n ∈ ns, l.Holds n := by
  refine (Reads.signNext _).branch (.pure (by simp)) ?_
  refine (Reads.signNext _).branch ?_ ?_
  · exact (doubleStarred_reads hg l).bind fun first hfirst => dictionaryRest_reads hg l hfirst
  refine (Reads.signNext _).bind fun _ _ => ?_
  refine (Reads.nameThenSign _).bind fun _ _ => .ite ?_ (bracedPlain_reads hg l)
  exact (starNamedExpression_phrase hg l).reads.bind fun first hfirst => setRest_reads hg l hfirst

theorem braced_headed : Headed l (braced g) := by
  refine .compound fun l => ?_
  refine (bracedParts_reads hg l).bind fun parts hparts => ?_
  exact (Reads.sign _).finish fun _ _ => hparts

/-! ## Primaries -/

theorem atomic_headed : Headed l (atomic g) := by
  intro s hs n s' h
  obtain ⟨next, s₁, hnext, h⟩ := of_bind_eq_some h
  cases hnext
  obtain ⟨rest, last⟩ := s
  cases rest with
  | nil => cases h
  | cons t r =>
    cases hkind : t.kind with
    | name =>
      simp only [List.head?_cons, hkind] at h
      split at h
      · exact nameNode_headed l hs h
      · exact Headed.atom (((solid_isWord _).or (solid_isWord _)).or (solid_isWord _)) hs h
    | number =>
      simp only [List.head?_cons, hkind] at h
      obtain ⟨u, s₁, hu, hn⟩ := of_bind_eq_some h
      have hu : token (fun t => t.kind == .number) ⟨t :: r, last⟩ = some (u, s₁) := by
        simpa [token, hkind] using hu
      exact Headed.atom (solid_kind rfl) hs (Option.bind_eq_some_iff.2 ⟨(u, s₁), hu, hn⟩)
    | string =>
      simp only [List.head?_cons, hkind] at h
      exact stringLiteral_headed hg l hs h
    | sign =>
      simp only [List.head?_cons, hkind] at h
      split at h
      · exact parenthesized_headed hg l hs h
      split at h
      · exact bracketed_headed hg l hs h
      split at h
      · exact braced_headed hg l hs h
      · exact Headed.atom (solid_isSign _) hs h
    | newline | indent | dedent | finish =>
      simp only [List.head?_cons, hkind] at h
      cases h

theorem slice_reads : Reads l (Follows l) (slice g) l.Holds := by
  refine (Reads.nameThenSign _).branch (namedExpression_phrase hg l).reads.lift ?_
  have hexpression := (hg.expression l).reads.optional
  refine .compound ?_
  refine hexpression.bind fun lower hlower => ?_
  refine (Reads.signNext _).branch ?_ ?_
  · refine (Reads.sign _).bind fun _ _ => ?_
    refine hexpression.bind fun upper hupper => ?_
    have hparts : ∀ step : Option Node, (∀ n ∈ step, l.Holds n) →
        ∀ n ∈ lower.toList ++ upper.toList ++ step.toList, l.Holds n := by
      intro step hstep n hn
      simp only [List.mem_append, Option.mem_toList] at hn
      rcases hn with (hn | hn) | hn
      · exact hlower n hn
      · exact hupper n hn
      · exact hstep n hn
    refine (Reads.signNext _).bind fun _ _ => .ite ?_ (.pure (hparts none nofun))
    exact (Reads.sign _).bind fun _ _ => hexpression.finish hparts
  · exact (Reads.check _).finish fun _ _ => by simpa using hlower

theorem starredExpression_phrase : Phrase l (starredExpression g) :=
  .compound ((Reads.sign _).then fun _ _ =>
    (hg.expression l).reads.finish fun n hn => by simpa using hn)

theorem slices_reads : Reads l (Follows l) (slices g) fun ns => ∀ n ∈ ns, l.Holds n := by
  have hitem : Reads l (Follows l) _ l.Holds :=
    (Reads.signNext "*").branch (starredExpression_phrase hg l).reads.lift (slice_reads hg l)
  exact hitem.commaTerminated.finish fun r hr => hr

/-! ## Arguments -/

/-- The arguments read so far: positional ones lie apart from each other, the
last first, and none reaches beyond `q`. -/
structure Gathered (l : Lexed) (args : ArgumentList) (q : Position) : Prop where
  positional : ∀ a ∈ args.positional, l.Bounds a ∧ l.Holds a
  keywords : ∀ n ∈ args.keywords, l.Holds n
  apart : args.positional.IsChain fun a b => b.extent.stop < a.extent.start
  behind : ∀ a ∈ args.positional.head?, a.extent.stop ≤ q

omit hg in
theorem gathered_nil (q : Position) : Gathered l {} q where
  positional := by simp
  keywords := by simp
  apart := .nil
  behind := by simp

omit hg in
variable {l} in
theorem Gathered.mono {args : ArgumentList} {q q' : Position} (h : Gathered l args q)
    (hq : q ≤ q') : Gathered l args q' :=
  { h with behind := fun a ha => (h.behind a ha).trans hq }

/-- A parser that adds an argument behind a position that is behind those read
so far. -/
def Gathers (l : Lexed) (args : ArgumentList) (f : Parser ArgumentList) : Prop :=
  ∀ ⦃s q⦄, s.Of l → Gathered l args q → q < s.last → ∀ ⦃args' s'⦄, f s = some (args', s') →
    s.Advances l s' ∧ Gathered l args' s'.last

namespace Gathers

variable {l} {args : ArgumentList} {phase : ArgumentPhase}

omit hg

theorem test {α : Type} {t : Parser α} {P : α → Prop} {f : α → Parser ArgumentList}
    (ht : Reads l Eq t P) (hf : ∀ x, Gathers l args (f x)) : Gathers l args (t >>= f) := by
  intro s q hs hargs hq args' s' h
  obtain ⟨x, s₁, hx, h⟩ := of_bind_eq_some h
  obtain ⟨-, rfl, -⟩ := ht hs hx
  exact hf x hs hargs hq h

theorem ite {b : Bool} {f₁ f₂ : Parser ArgumentList} (h₁ : Gathers l args f₁)
    (h₂ : Gathers l args f₂) : Gathers l args (if b = true then f₁ else f₂) := by
  cases b with
  | true => exact h₁
  | false => exact h₂

theorem next {α : Type} {t : Parser α} {P : α → Prop} {f : α → Parser ArgumentList}
    (ht : Reads l (Advances l) t P) (hf : ∀ x, Gathers l args (f x)) :
    Gathers l args (t >>= f) := by
  intro s q hs hargs hq args' s' h
  obtain ⟨x, s₁, hx, h⟩ := of_bind_eq_some h
  obtain ⟨hs₁, hadvances, -⟩ := ht hs hx
  obtain ⟨hadvances', hargs'⟩ := hf x hs₁ hargs (hq.trans (hadvances.last_lt_last hs)) h
  exact ⟨hadvances.trans hadvances', hargs'⟩

theorem positional {f : Parser Node} (hf : Phrase l f) : Gathers l args
    (f >>= fun n => pure { args with positional := n :: args.positional }) := by
  intro s q hs hargs hq args' s' h
  obtain ⟨n, s₁, hn, h⟩ := of_bind_eq_some h
  obtain ⟨rfl, rfl⟩ := of_pure_eq_some h
  obtain ⟨hadvances, hcovers⟩ := hf hs hn
  refine ⟨hadvances, ?_, hargs.keywords, ?_, ?_⟩
  · exact List.forall_mem_cons.2 ⟨⟨hcovers.bounds, hcovers.holds⟩, hargs.positional⟩
  · refine List.isChain_cons.2 ⟨fun a ha => ?_, hargs.apart⟩
    exact ((hargs.behind a ha).trans_lt hq).trans_le hcovers.behind
  · intro a ha
    obtain rfl := Option.some.inj ha
    exact hcovers.before

theorem keyword {f : Parser Node} (hf : Phrase l f) : Gathers l args
    (f >>= fun n => pure { args with phase := phase, keywords := n :: args.keywords }) := by
  intro s q hs hargs hq args' s' h
  obtain ⟨n, s₁, hn, h⟩ := of_bind_eq_some h
  obtain ⟨rfl, rfl⟩ := of_pure_eq_some h
  obtain ⟨hadvances, hcovers⟩ := hf hs hn
  have hle := (hq.trans (hadvances.last_lt_last hs)).le
  exact ⟨hadvances, { hargs.mono hle with
    keywords := List.forall_mem_cons.2 ⟨hcovers.holds, hargs.keywords⟩ }⟩

end Gathers

theorem argument_gathers (args : ArgumentList) : Gathers l args (argument g args) := by
  refine .test (.signNext _) fun _ => .ite ?_ (.test (.signNext _) fun _ => .ite ?_
    (.test (.nameThenSign _) fun _ => .ite ?_ ?_))
  · exact .test (.check _) fun _ => .positional (starredExpression_phrase hg l)
  · exact .next (.sign _) fun _ => .keyword (hg.expression l)
  · exact .next .identifier fun _ => .next (.sign _) fun _ => .keyword (hg.expression l)
  · exact .test (.check _) fun _ => .positional (namedExpression_phrase hg l)

/-- Arguments behind a first one. A comma takes the stream beyond what was read
so far. -/
theorem gathered_of_argumentsAfter {first args : ArgumentList} {s s' : TokenStream} (hs : s.Of l)
    (hfirst : Gathered l first s.last) (h : argumentsAfter g first s = some (args, s')) :
    s.Follows l s' ∧ Gathered l args s'.last := by
  obtain ⟨args, s₁, hargs, h⟩ := of_bind_eq_some h
  obtain ⟨_, s₂, hcomma, h⟩ := of_bind_eq_some h
  obtain ⟨rfl, rfl⟩ := of_pure_eq_some h
  have hextend : s₁.Of l ∧ s.Follows l s₁ ∧ Gathered l args s₁.last := by
    refine of_extend_eq_some (I := fun args s' => s'.Of l ∧ s.Follows l s' ∧
      Gathered l args s'.last) ?_ ⟨hs, .inl rfl, hfirst⟩ hargs
    rintro args s₁ args' s₂ ⟨hs₁, hfollows, hargs⟩ h
    obtain ⟨_, s₃, hcomma, h⟩ := of_bind_eq_some h
    obtain ⟨hs₃, hadvances, -⟩ := Reads.sign "," hs₁ hcomma
    obtain ⟨hadvances', hargs'⟩ :=
      argument_gathers hg l args hs₃ hargs (hadvances.last_lt_last hs₁) h
    exact ⟨hadvances'.of, hfollows.trans (.inr (hadvances.trans hadvances')), hargs'⟩
  obtain ⟨hs₁, hfollows, hargs⟩ := hextend
  obtain ⟨-, hfollows', -⟩ := (Reads.sign ",").optional hs₁ hcomma
  exact ⟨hfollows.trans hfollows', hargs.mono (hfollows'.last_le_last hs₁)⟩

/-- Positional arguments in order and the values of keyword arguments. -/
structure Arguments (l : Lexed) (r : List Node × List Node) : Prop where
  positional : ∀ a ∈ r.1, l.Bounds a ∧ l.Holds a
  keywords : ∀ n ∈ r.2, l.Holds n
  apart : r.1.IsChain fun a b => a.extent.stop < b.extent.start

omit hg in
variable {l} in
theorem Gathered.arguments {args : ArgumentList} {q : Position} (h : Gathered l args q) :
    Arguments l (args.positional.reverse, args.keywords.reverse) where
  positional := by simpa using h.positional
  keywords := by simpa using h.keywords
  apart := List.isChain_reverse.2 h.apart

/-- A lone generator extends over the parentheses of the call. -/
theorem arguments_of_generator {element : Node} {b : Bool} {r : List Node × List Node}
    {s₀ s s' : TokenStream} (hs₀ : s₀.Of l) (hadvances : s₀.Advances l s)
    (helement : l.Holds element)
    (h : (do
      check b
      let clauses ← comprehension g
      sign ")"
      return ([← closeAt s₀.position .other (element :: clauses)], []) :
        Parser (List Node × List Node)) s = some (r, s')) :
    s₀.Advances l s' ∧ Arguments l r := by
  obtain ⟨_, s₁, hcheck, h⟩ := of_bind_eq_some h
  obtain ⟨-, rfl, -⟩ := Reads.check _ hadvances.of hcheck
  obtain ⟨clauses, s₂, hclauses, h⟩ := of_bind_eq_some h
  obtain ⟨hs₂, hfollows, hclauses⟩ := comprehension_reads hg l hadvances.of hclauses
  obtain ⟨_, s₃, hclosing, h⟩ := of_bind_eq_some h
  obtain ⟨-, hadvances', -⟩ := Reads.sign ")" hs₂ hclosing
  obtain ⟨n, s₄, hn, h⟩ := of_bind_eq_some h
  obtain ⟨rfl, rfl⟩ := of_pure_eq_some h
  have hadvances := (hadvances.trans_follows hfollows).trans hadvances'
  have hparts := List.forall_mem_cons.2 ⟨helement, hclauses⟩
  obtain ⟨hadvances, hcovers⟩ := Finishes.closeAt hparts hs₀ hadvances (le_refl _) hn
  exact ⟨hadvances, by simpa using ⟨hcovers.bounds, hcovers.holds⟩, by simp, .singleton n⟩

/-- Other arguments end at the closing parenthesis. -/
theorem arguments_of_ordered {first : ArgumentList} {r : List Node × List Node}
    {s₀ s s' : TokenStream} (hadvances : s₀.Advances l s) (hfirst : Gathered l first s.last)
    (h : (do
      let args ← argumentsAfter g first
      sign ")"
      return (args.positional.reverse, args.keywords.reverse) :
        Parser (List Node × List Node)) s = some (r, s')) :
    s₀.Advances l s' ∧ Arguments l r := by
  obtain ⟨args, s₁, hargs, h⟩ := of_bind_eq_some h
  obtain ⟨_, s₂, hclosing, h⟩ := of_bind_eq_some h
  obtain ⟨rfl, rfl⟩ := of_pure_eq_some h
  obtain ⟨hfollows, hargs⟩ := gathered_of_argumentsAfter hg l hadvances.of hfirst hargs
  have hadvances := hadvances.trans_follows hfollows
  obtain ⟨-, hadvances', -⟩ := Reads.sign ")" hadvances.of hclosing
  exact ⟨hadvances.trans hadvances', hargs.arguments⟩

theorem argumentsIn_reads (allowGenerator : Bool) :
    Reads l (Advances l) (argumentsIn g allowGenerator) (Arguments l) := by
  intro s hs r s' h
  rw [argumentsIn, bind_here_apply] at h
  obtain ⟨_, s₁, hopening, h⟩ := of_bind_eq_some h
  obtain ⟨hs₁, hadvances, -⟩ := Reads.sign "(" hs hopening
  obtain ⟨closed, s₂, hclosed, h⟩ := of_bind_eq_some h
  obtain ⟨-, rfl, -⟩ := Reads.signNext ")" hs₁ hclosed
  split at h
  next =>
    obtain ⟨_, s₂, hclosing, h⟩ := of_bind_eq_some h
    obtain ⟨rfl, rfl⟩ := of_pure_eq_some h
    obtain ⟨hs₂, hadvances', -⟩ := Reads.sign ")" hs₁ hclosing
    exact ⟨hs₂, hadvances.trans hadvances', (gathered_nil l s.last).arguments⟩
  next =>
    obtain ⟨first, s₂, hfirst, h⟩ := of_bind_eq_some h
    obtain ⟨hadvances', hfirst⟩ := argument_gathers hg l {} hs₁ (gathered_nil l s.last)
      (hadvances.last_lt_last hs) hfirst
    have hadvances := hadvances.trans hadvances'
    obtain ⟨generator, s₃, hgenerator, h⟩ := of_bind_eq_some h
    obtain ⟨-, rfl, -⟩ := comprehensionNext_reads l hadvances.of hgenerator
    have hresult : s.Advances l s' ∧ Arguments l r := by
      rcases hpositional : first.positional with _ | ⟨element, _ | ⟨second, more⟩⟩
      · rw [hpositional] at h
        exact arguments_of_ordered hg l hadvances hfirst h
      · rw [hpositional] at h
        cases generator with
        | true =>
          have helement : l.Holds element := (hfirst.positional element (by simp [hpositional])).2
          exact arguments_of_generator hg l hs hadvances helement h
        | false => exact arguments_of_ordered hg l hadvances hfirst h
      · rw [hpositional] at h
        exact arguments_of_ordered hg l hadvances hfirst h
    exact ⟨hresult.1.of, hresult⟩

/-! ## Suffixes -/

/-- What a primary that began at `s₀` has come to at `s`. Of the calls in it, those that
begin with it end with it at the latest. -/
structure Primary (l : Lexed) (s₀ s : TokenStream) (n : Node) : Prop where
  advances : s₀.Advances l s
  covers : Covers l s₀.last n s.last
  heads : ∀ c ∈ n.calls, s₀.position < c.extent.start ∨
    (s₀.position = c.extent.start ∧ c.extent.stop ≤ s.last)

namespace Primary

omit hg

variable {l} {s₀ s s' : TokenStream} {n : Node}

/-- The calls of a part that is read behind the primary begin behind it. -/
theorem position_lt (h : Primary l s₀ s n) {m : Node}
    (hm : (l.onFrom h.advances.of.suffix).Holds m) :
    ∀ c ∈ m.calls, s₀.position < c.extent.start :=
  fun c hc => h.advances.position_lt_last.trans_le (h.advances.of.last_le_of_holds hm c hc)

/-- A suffix makes a node of the primary and of parts that are read behind it. -/
theorem close (h : Primary l s₀ s n) (hs₀ : s₀.Of l) (hadvances : s.Advances l s') {form : Form}
    {others : List Node} (hothers : ∀ m ∈ others, (l.onFrom h.advances.of.suffix).Holds m) :
    Primary l s₀ s' (.compound ⟨s₀.position, s'.last⟩ form (n :: others)) where
  advances := h.advances.trans hadvances
  covers := by
    have hparts : ∀ m ∈ n :: others, l.Holds m :=
      List.forall_mem_cons.2 ⟨h.covers.holds, fun m hm => (hothers m hm).of_onFrom⟩
    exact covers_of_advances hs₀ (h.advances.trans hadvances) rfl (Lexed.holds_compound hparts)
      nofun
  heads := by
    have hle := (hadvances.last_lt_last h.advances.of).le
    intro c hc
    obtain ⟨m, hm, hcm⟩ := Node.mem_callsOf.1 hc
    rcases List.mem_cons.1 hm with rfl | hm
    · exact (h.heads c hcm).imp_right fun hc => ⟨hc.1, hc.2.trans hle⟩
    · exact .inl (h.position_lt (hothers m hm) c hcm)

/-- A call of the primary. It ends behind the calls that begin with it, and what is passed
to it is read behind what is called. -/
theorem call (h : Primary l s₀ s n) (hs₀ : s₀.Of l) (hbehind : l.Behind s₀.position)
    (hadvances : s.Advances l s') {r : List Node × List Node}
    (hr : Arguments (l.onFrom h.advances.of.suffix) r) :
    Primary l s₀ s' (.call ⟨s₀.position, s'.last⟩ n r.1 r.2) := by
  have hlt := hadvances.last_lt_last h.advances.of
  have hadvances := h.advances.trans hadvances
  have hothers : ∀ m ∈ r.1 ++ r.2, (l.onFrom h.advances.of.suffix).Holds m :=
    List.forall_mem_append.2 ⟨fun m hm => (hr.positional m hm).2, hr.keywords⟩
  have hcall : l.BoundsCall ⟨⟨s₀.position, s'.last⟩, n, r.1⟩ :=
    { behind := hbehind
      start := hadvances.start
      stop := hadvances.stop
      start_le_stop := hadvances.position_lt_last.le
      arguments := fun a ha => (hr.positional a ha).1.of_onFrom
      apart := hr.apart }
  have hleads : ∀ m ∈ n :: (r.1 ++ r.2), ∀ c ∈ m.calls,
      Extent.Leads ⟨s₀.position, s'.last⟩ c.extent := by
    refine List.forall_mem_cons.2 ⟨fun c hc => ?_, fun m hm c hc => ?_⟩
    · exact (h.heads c hc).imp_right fun hc => ⟨hc.1, hc.2.trans_lt hlt⟩
    · exact .inl (h.position_lt (hothers m hm) c hc)
  have hholds : l.Holds (.call ⟨s₀.position, s'.last⟩ n r.1 r.2) :=
    Lexed.holds_call hcall h.covers.holds (fun a ha => (hr.positional a ha).2.of_onFrom)
      (fun m hm => (hr.keywords m hm).of_onFrom) hleads
  refine ⟨hadvances, covers_of_advances hs₀ hadvances rfl hholds nofun, fun c hc => ?_⟩
  rcases Node.mem_calls.1 hc with hc | ⟨m, hm, hc⟩
  · obtain rfl := Option.some.inj hc
    exact .inr ⟨rfl, le_refl s'.last⟩
  · exact (hleads m hm c hc).imp_right fun hc => ⟨hc.1, hc.2.le⟩

end Primary

/-- With a suffix, a primary comes to another one. -/
theorem primary_of_suffix {s₀ s s' : TokenStream} {n n' : Node} (hs₀ : s₀.Of l)
    (hbehind : l.Behind s₀.position) (hn : Primary l s₀ s n)
    (h : suffix g s₀.position n s = some (n', s')) : Primary l s₀ s' n' := by
  have hs := hn.advances.of
  obtain ⟨next, s₁, hnext, h⟩ := of_bind_eq_some h
  cases hnext
  cases hhead : s.rest.head? with
  | none =>
    rw [hhead] at h
    cases h
  | some t =>
    rw [hhead] at h
    dsimp only at h
    split at h
    next =>
      obtain ⟨_, s₁, hdot, h⟩ := of_bind_eq_some h
      obtain ⟨hs₁, hadvances, -⟩ := Reads.sign "." hs hdot
      obtain ⟨_, s₂, hname, h⟩ := of_bind_eq_some h
      obtain ⟨-, hadvances', -⟩ := Reads.identifier hs₁ hname
      cases h
      exact hn.close hs₀ (hadvances.trans hadvances') nofun
    next =>
      split at h
      next =>
        obtain ⟨r, s₁, hr, h⟩ := of_bind_eq_some h
        obtain ⟨-, hadvances, -⟩ := argumentsIn_reads hg l true hs hr
        obtain ⟨-, -, hparts⟩ := argumentsIn_reads hg _ true hs.onFrom hr
        cases h
        exact hn.call hs₀ hbehind hadvances hparts
      next =>
        split at h
        next =>
          obtain ⟨_, s₁, hopening, h⟩ := of_bind_eq_some h
          obtain ⟨hs₁, hadvances₁, -⟩ := Reads.sign "[" hs hopening
          obtain ⟨hs₁', -, -⟩ := Reads.sign "[" hs.onFrom hopening
          obtain ⟨items, s₂, hitems, h⟩ := of_bind_eq_some h
          obtain ⟨hs₂, hfollows, -⟩ := slices_reads hg l hs₁ hitems
          obtain ⟨-, -, hparts⟩ := slices_reads hg _ hs₁' hitems
          obtain ⟨_, s₃, hclosing, h⟩ := of_bind_eq_some h
          obtain ⟨-, hadvances₃, -⟩ := Reads.sign "]" hs₂ hclosing
          cases h
          exact hn.close hs₀ ((hadvances₁.trans_follows hfollows).trans hadvances₃) hparts
        next => cases h

theorem primary_phrase : Phrase l (primary g) := by
  intro s₀ hs₀ n' s' h
  rw [primary, bind_here_apply] at h
  obtain ⟨n, s, hn, h⟩ := of_bind_eq_some h
  obtain ⟨⟨hadvances, hcovers⟩, hheaded⟩ := atomic_headed hg l hs₀ hn
  have hne : s₀.rest ≠ [] := by
    intro hnil
    obtain ⟨rest, last⟩ := s₀
    obtain rfl : rest = [] := hnil
    cases hn
  have hprimary : Primary l s₀ s n := ⟨hadvances, hcovers, fun c hc => .inl (hheaded c hc)⟩
  have hextended : Primary l s₀ s' n' :=
    of_extend_eq_some (fun _ _ _ _ => primary_of_suffix hg l hs₀ (hs₀.behind_position hne))
      hprimary h
  exact ⟨hextended.advances, hextended.covers⟩

/-! ## Arithmetic and logic -/

theorem awaited_phrase : Phrase l (awaited g) := by
  refine .branch (.wordNext _) (.compound ((Reads.word _).then fun _ _ => ?_))
    (primary_phrase hg l)
  exact (primary_phrase hg l).reads.finish fun n hn => by simpa using hn

theorem power_phrase : Phrase l (power g) := by
  refine (awaited_phrase hg l).andThen fun s₀ base q hbase => ?_
  refine .branch (.signNext _) (.bind (Reads.sign _) fun _ _ => ?_) (.pure hbase)
  refine .bind (hg.operand l .factor nofun) fun exponent hexponent => .closeAt ?_
  simp [hbase.holds, hexponent]

theorem factor_phrase : Phrase l (factor g) := by
  refine .branch (.nextIs _) (.compound ((Reads.oneSign _).then fun _ _ => ?_)) (power_phrase hg l)
  exact (hg.operand l .factor nofun).finish fun n hn => by simpa using hn

theorem bitwiseOr_phrase : Phrase l (bitwiseOr g) := by
  have hterm : Phrase l (term g) := .chain (.oneSign _) (factor_phrase hg l)
  have hsum : Phrase l (sum g) := .chain (.oneSign _) hterm
  have hshift : Phrase l (shift g) := .chain (.oneSign _) hsum
  have hand : Phrase l (bitwiseAnd g) := .chain (.sign _) hshift
  have hxor : Phrase l (bitwiseXor g) := .chain (.sign _) hand
  exact .chain (.sign _) hxor

theorem inversion_phrase : Phrase l (inversion g) := by
  have hcomparison : Phrase l (comparison g) :=
    .chain (comparisonOperator_reads l) (bitwiseOr_phrase hg l)
  refine .branch (.wordNext _) (.compound ((Reads.word _).then fun _ _ => ?_)) hcomparison
  exact (hg.operand l .inversion nofun).finish fun n hn => by simpa using hn

theorem disjunction_phrase : Phrase l (disjunction g) := by
  have hconjunction : Phrase l (conjunction g) := .chain (.word _) (inversion_phrase hg l)
  exact .chain (.word _) hconjunction

/-! ## Parameters -/

theorem parameterType_reads (annotated starred : Bool) :
    Reads l (Follows l) (parameterType g annotated starred) fun ns => ∀ n ∈ ns, l.Holds n := by
  refine (Reads.signNext _).bind fun _ _ => .ite ?_ (.pure (by simp))
  refine (Reads.sign _).bind fun _ _ => ?_
  cases starred with
  | true => exact (starExpression_phrase hg l).reads.finish fun n hn => by simpa using hn
  | false => exact (hg.expression l).reads.finish fun n hn => by simpa using hn

theorem parameter_reads (annotated : Bool) (st : ParameterState) :
    Reads l (Follows l) (parameter g annotated st) fun r => ∀ n ∈ r.1, l.Holds n := by
  have htype := parameterType_reads hg l annotated
  refine (Reads.signNext _).branch ?_ ?_
  · refine (Reads.check _).bind fun _ _ => ?_
    exact (Reads.sign _).finish fun _ _ => by simp
  refine (Reads.signNext _).branch ?_ ?_
  · refine (Reads.check _).bind fun _ _ => (Reads.sign _).bind fun _ _ => ?_
    exact Reads.identifier.bind fun _ _ => (htype false).finish fun _ h => h
  refine (Reads.signNext _).branch ?_ ?_
  · refine (Reads.check _).bind fun _ _ => (Reads.sign _).bind fun _ _ => ?_
    refine (Reads.signNext _).branch (.pure (by simp)) ?_
    exact Reads.identifier.bind fun _ _ => (htype true).finish fun _ h => h
  · refine Reads.identifier.bind fun _ _ => (htype false).bind fun type htype => ?_
    refine (Reads.signNext _).branch ?_ ((Reads.check _).finish fun _ _ => htype)
    refine (Reads.sign _).bind fun _ _ => (hg.expression l).reads.finish fun value hvalue => ?_
    exact List.forall_mem_append.2 ⟨htype, by simpa using hvalue⟩

theorem parametersWithin_reads (annotated : Bool) (closing : String) (clock : List Token)
    (st : ParameterState) :
    Reads l (Follows l) (parametersWithin g annotated closing clock st)
      fun ns => ∀ n ∈ ns, l.Holds n := by
  induction clock generalizing st with
  | nil => exact .failure
  | cons _ clock ih =>
    refine (Reads.signNext _).branch ((Reads.check _).finish fun _ _ => by simp) ?_
    refine (parameter_reads hg l annotated st).bind fun (parts, st, final) hparts => ?_
    refine (Reads.signNext _).branch ((Reads.sign _).bind fun _ _ => ?_)
      ((Reads.check _).finish fun _ _ => hparts)
    refine .ite (.pure hparts) ((ih st).finish fun more hmore => ?_)
    exact List.forall_mem_append.2 ⟨hparts, hmore⟩

theorem parameters_reads (annotated : Bool) (closing : String) :
    Reads l (Follows l) (parameters g annotated closing) fun ns => ∀ n ∈ ns, l.Holds n :=
  fun s => parametersWithin_reads hg l annotated closing s.rest {} (s := s)

/-! ## Whole expressions -/

theorem lambda_phrase : Phrase l (lambda g) := by
  refine .compound ((Reads.word _).then fun _ _ => ?_)
  refine (parameters_reads hg l false ":").bind fun defaults hdefaults => ?_
  refine (Reads.sign _).bind fun _ _ => (hg.expression l).reads.finish fun n hn => ?_
  exact List.forall_mem_append.2 ⟨hdefaults, by simpa using hn⟩

theorem expression_phrase : Phrase l (expression g) := by
  refine .branch (.wordNext _) (lambda_phrase hg l) ?_
  refine (disjunction_phrase hg l).andThen fun s₀ value q hvalue => ?_
  refine .branch (.wordNext _) (.bind (Reads.word _) fun _ _ => ?_) (.pure hvalue)
  refine .bind (disjunction_phrase hg l).reads fun condition hcondition => ?_
  refine .bind (Reads.word _) fun _ _ => ?_
  refine .bind (hg.expression l).reads fun otherwise hotherwise => .closeAt ?_
  simp [hvalue.holds, hcondition, hotherwise]

theorem starExpressions_reads : Reads l (Follows l) (starExpressions g) l.Holds :=
  .tupled (starExpression_phrase hg l).reads.lift

end Parser

end TextDomain
