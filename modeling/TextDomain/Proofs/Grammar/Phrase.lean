import TextDomain.Proofs.Grammar.Reading

/-!
# Phrases

An expression is a phrase: it takes a token at least, and its node lies within
what was taken. Grouping parentheses belong to no node, so a node may be
narrower than its phrase; a node of several parts is as wide as the phrase.

A rule for expressions begins with a part, a token or a phrase, and then
`Finishes` the phrase that this part began: it closes a node that begins where
the part did, or gives a node that it has read before.

## Main results

* `Phrase.andThen`, `Phrase.afterToken` — a phrase and what finishes it.
* `Phrase.compound` — a node of several parts is a phrase.
* `Phrase.chain` — operands and operators are a phrase.
* `Headed.afterSign`, `Headed.compound` — in a phrase that begins with a sign, no call
  begins where the phrase does.
-/

namespace TextDomain.Parser

open Token (Lexed isLayoutKind)
open TokenStream (Advances Follows Anywhere)

variable {α : Type} {l : Lexed} {R : TokenStream → TokenStream → Prop} {P : α → Prop}
  {s s₀ : TokenStream} {p q : Position} {n : Node}

/-- The node lies in the text and between two positions, and so do the calls in
it. -/
structure Covers (l : Lexed) (p : Position) (n : Node) (q : Position) : Prop where
  bounds : l.Bounds n
  holds : l.Holds n
  behind : p ≤ n.extent.start
  before : n.extent.stop ≤ q

theorem Covers.mono {p' q' : Position} (h : Covers l p n q) (hp : p' ≤ p) (hq : q ≤ q') :
    Covers l p' n q' :=
  { h with behind := hp.trans h.behind, before := h.before.trans hq }

/-- A node that extends over all that was taken. -/
theorem covers_of_advances (hs : s₀.Of l) (hadvances : s₀.Advances l s)
    (hextent : n.extent = ⟨s₀.position, s.last⟩) (hholds : l.Holds n)
    (hliteral : n.literal?.isSome = true →
      ∃ p, l.Inside p ∧ s₀.position < p ∧ p < s.last) :
    Covers l s₀.last n s.last where
  bounds := by
    refine ⟨?_, ?_, ?_, ?_⟩
    · rw [hextent]
      exact hadvances.start
    · rw [hextent]
      exact hadvances.stop
    · rw [hextent]
      exact hadvances.position_lt_last.le
    · rw [hextent]
      exact hliteral
  holds := hholds
  behind := by
    rw [hextent]
    exact hs.last_le_position
  before := by
    rw [hextent]

/-- A parser of nodes that lie in what it takes. -/
def Phrase (l : Lexed) (p : Parser Node) : Prop :=
  ∀ ⦃s : TokenStream⦄, s.Of l → ∀ ⦃n s'⦄, p s = some (n, s') →
    s.Advances l s' ∧ Covers l s.last n s'.last

/-- A parser that ends a phrase which began at `s₀` and reaches `p` already. -/
def Finishes (l : Lexed) (s₀ : TokenStream) (p : Position) (f : Parser Node) : Prop :=
  ∀ ⦃s : TokenStream⦄, s₀.Of l → s₀.Advances l s → p ≤ s.last → ∀ ⦃n s'⦄, f s = some (n, s') →
    s₀.Advances l s' ∧ Covers l s₀.last n s'.last

theorem Phrase.reads {f : Parser Node} (h : Phrase l f) : Reads l (Advances l) f l.Holds := by
  intro s hs n s' heq
  obtain ⟨hadvances, hcovers⟩ := h hs heq
  exact ⟨hadvances.of, hadvances, hcovers.holds⟩

/-! ## What finishes a phrase -/

namespace Finishes

variable {f : α → Parser Node} {g : Parser α}

theorem pure (h : Covers l s₀.last n p) : Finishes l s₀ p (pure n) := by
  intro s _ hadvances hp n' s' heq
  obtain ⟨rfl, rfl⟩ := of_pure_eq_some heq
  exact ⟨hadvances, h.mono (le_refl _) hp⟩

/-- A node is closed that begins where the phrase does. -/
theorem close {k : Extent → Node} (hextent : ∀ e, (k e).extent = e)
    (hliteral : ∀ e, (k e).literal? = none)
    (hholds : ∀ s, s₀.Advances l s → l.Holds (k ⟨s₀.position, s.last⟩)) :
    Finishes l s₀ p (lastEnd >>= fun stop => Pure.pure (k ⟨s₀.position, stop⟩)) := by
  intro s hs hadvances _ n s' heq
  cases heq
  refine ⟨hadvances, covers_of_advances hs hadvances (hextent _) (hholds s hadvances) ?_⟩
  rw [hliteral]
  exact nofun

theorem closeAt {form : Form} {parts : List Node} (h : ∀ n ∈ parts, l.Holds n) :
    Finishes l s₀ p (closeAt s₀.position form parts) :=
  close (k := fun e => .compound e form parts) (fun _ => rfl) (fun _ => rfl)
    fun _ _ => Lexed.holds_compound h

theorem failure : Finishes l s₀ p failure := by
  intro s _ _ _ n s' heq
  cases heq

theorem bind [Trans R (Follows l) (Follows l)] (hg : Reads l R g P)
    (hf : ∀ x, P x → Finishes l s₀ p (f x)) : Finishes l s₀ p (g >>= f) := by
  intro s hs hadvances hp n s' heq
  obtain ⟨x, s₁, hx, hn⟩ := of_bind_eq_some heq
  obtain ⟨-, hfollows, hpx⟩ := hg.lift (T := Follows l) hadvances.of hx
  have hle := hfollows.last_le_last hadvances.of
  exact hf x hpx hs (hadvances.trans_follows hfollows) (hp.trans hle) hn

/-- A phrase inside the phrase. -/
theorem bindPhrase {g : Parser Node} {f : Node → Parser Node} (hg : Phrase l g)
    (hf : ∀ n q, Covers l s₀.last n q → Finishes l s₀ q (f n)) : Finishes l s₀ p (g >>= f) := by
  intro s hs hadvances _ n s' heq
  obtain ⟨x, s₁, hx, hn⟩ := of_bind_eq_some heq
  obtain ⟨hadvances', hcovers⟩ := hg hadvances.of hx
  have hle := (Follows.last_le_last (.inr hadvances) hs)
  have hcovers := hcovers.mono hle (le_refl _)
  exact hf x _ hcovers hs (hadvances.trans hadvances') (le_refl _) hn

theorem ite {b : Bool} {f₁ f₂ : Parser Node} (h₁ : Finishes l s₀ p f₁)
    (h₂ : Finishes l s₀ p f₂) : Finishes l s₀ p (if b = true then f₁ else f₂) := by
  cases b with
  | true => exact h₁
  | false => exact h₂

theorem branch {t : Parser Bool} {P : Bool → Prop} {f₁ f₂ : Parser Node}
    (ht : Reads l Eq t P) (h₁ : Finishes l s₀ p f₁) (h₂ : Finishes l s₀ p f₂) :
    Finishes l s₀ p (t >>= fun b => if b = true then f₁ else f₂) :=
  .bind ht fun _ _ => .ite h₁ h₂

end Finishes

/-! ## Phrases and their parts -/

namespace Phrase

/-- A phrase and what finishes it. -/
theorem andThen {f : Parser Node} {k : Position → Node → Parser Node} (hf : Phrase l f)
    (hk : ∀ s₀ n q, Covers l s₀.last n q → Finishes l s₀ q (k s₀.position n)) :
    Phrase l (here >>= fun start => f >>= k start) := by
  intro s hs n s' heq
  rw [bind_here_apply] at heq
  obtain ⟨x, s₁, hx, hn⟩ := of_bind_eq_some heq
  obtain ⟨hadvances, hcovers⟩ := hf hs hx
  exact hk s x _ hcovers hs hadvances (le_refl _) hn

/-- Tokens and what finishes the phrase that they begin. -/
theorem afterToken {f : Parser α} {k : Position → α → Parser Node} (hf : Reads l (Advances l) f P)
    (hk : ∀ s₀ q x, P x → Finishes l s₀ q (k s₀.position x)) :
    Phrase l (here >>= fun start => f >>= k start) := by
  intro s hs n s' heq
  rw [bind_here_apply] at heq
  obtain ⟨x, s₁, hx, hn⟩ := of_bind_eq_some heq
  obtain ⟨-, hadvances, hpx⟩ := hf hs hx
  exact hk s _ x hpx hs hadvances (le_refl s₁.last) hn

/-- A node of several parts. -/
theorem compound {form : Form} {f : Parser (List Node)}
    (hf : Reads l (Advances l) f fun ns => ∀ n ∈ ns, l.Holds n) : Phrase l (compound form f) := by
  exact afterToken hf fun s₀ q parts hparts => Finishes.closeAt hparts

/-- A token that is a node. -/
theorem ofToken {t : Token → Bool} (ht : Solid t) {f : Token → Node}
    (hextent : ∀ u, (f u).extent = u.extent) (hliteral : ∀ u, (f u).literal? = none)
    (hholds : ∀ u, l.Holds (f u)) : Phrase l (token t >>= fun u => pure (f u)) := by
  intro s hs n s' heq
  obtain ⟨u, s₁, hu, hn⟩ := of_bind_eq_some heq
  obtain ⟨rfl, rfl⟩ := of_pure_eq_some hn
  obtain ⟨-, -, -, htest⟩ := Reads.token ht hs hu
  have htakes := takes_of_token hs hu (ht htest)
  refine ⟨htakes.advances, covers_of_advances hs htakes.advances ?_ (hholds u) ?_⟩
  · rw [hextent, htakes.start, htakes.stop]
  · rw [hliteral]
    exact nofun

theorem atom {t : Token → Bool} (ht : Solid t) : Phrase l (atom t) :=
  ofToken ht (fun _ => rfl) (fun _ => rfl) fun _ => Lexed.holds_compound nofun

theorem ite {b : Bool} {f₁ f₂ : Parser Node} (h₁ : Phrase l f₁) (h₂ : Phrase l f₂) :
    Phrase l (if b = true then f₁ else f₂) := by
  cases b with
  | true => exact h₁
  | false => exact h₂

theorem failure : Phrase l failure := by
  intro s _ n s' heq
  cases heq

theorem branch {t : Parser Bool} {P : Bool → Prop} {f₁ f₂ : Parser Node} (ht : Reads l Eq t P)
    (h₁ : Phrase l f₁) (h₂ : Phrase l f₂) :
    Phrase l (t >>= fun b => if b = true then f₁ else f₂) := by
  intro s hs n s' heq
  obtain ⟨b, s₁, hb, hn⟩ := of_bind_eq_some heq
  obtain ⟨-, rfl, -⟩ := ht hs hb
  exact (ite h₁ h₂ : Phrase l (if b = true then f₁ else f₂)) hs hn

/-- Operands with operators between them. -/
theorem chain {operator : Parser Unit} {f : Parser Node}
    (hoperator : Reads l (Advances l) operator fun _ => True) (hf : Phrase l f) :
    Phrase l (chain operator f) := by
  refine hf.andThen fun s₀ first q hfirst => ?_
  have hmore : Reads l (Advances l) (operator *> f) l.Holds := hoperator.after hf.reads
  refine Finishes.bind (hmore.many (T := Follows l)) fun more hmore => ?_
  cases more with
  | nil => exact .pure hfirst
  | cons n more => exact .closeAt (List.forall_mem_cons.2 ⟨hfirst.holds, hmore⟩)

end Phrase

/-! ## Phrases headed by a token -/

/-- A phrase that begins with a token of its own, so that no call in it begins where it
does. -/
def Headed (l : Lexed) (f : Parser Node) : Prop :=
  ∀ ⦃s : TokenStream⦄, s.Of l → ∀ ⦃n s'⦄, f s = some (n, s') →
    (s.Advances l s' ∧ Covers l s.last n s'.last) ∧ ∀ c ∈ n.calls, s.position < c.extent.start

namespace Headed

theorem phrase {f : Parser Node} (h : Headed l f) : Phrase l f :=
  fun _ hs _ _ heq => (h hs heq).1

/-- A token that is a node and no call. -/
theorem ofToken {t : Token → Bool} (ht : Solid t) {f : Token → Node}
    (hextent : ∀ u, (f u).extent = u.extent) (hliteral : ∀ u, (f u).literal? = none)
    (hholds : ∀ u, l.Holds (f u)) (hcalls : ∀ u, (f u).calls = []) :
    Headed l (token t >>= fun u => pure (f u)) := by
  intro s hs n s' heq
  refine ⟨Phrase.ofToken ht hextent hliteral hholds hs heq, ?_⟩
  obtain ⟨u, s₁, -, hn⟩ := of_bind_eq_some heq
  obtain ⟨rfl, rfl⟩ := of_pure_eq_some hn
  rw [hcalls]
  exact nofun

theorem atom {t : Token → Bool} (ht : Solid t) : Headed l (atom t) :=
  ofToken ht (fun _ => rfl) (fun _ => rfl) (fun _ => Lexed.holds_compound nofun) fun _ => rfl

/-- A sign and what finishes the phrase that it begins. -/
theorem afterSign {t : String} {k : Position → Parser Node}
    (hk : ∀ l s₀ q, Finishes l s₀ q (k s₀.position)) :
    Headed l (here >>= fun start => sign t >>= fun _ => k start) := by
  intro s hs n s' heq
  refine ⟨Phrase.afterToken (Reads.sign t) (fun s₀ q _ _ => hk l s₀ q) hs heq, ?_⟩
  rw [bind_here_apply] at heq
  obtain ⟨_, s₁, hsign, heq⟩ := of_bind_eq_some heq
  obtain ⟨hs₁, hadvances, -⟩ := Reads.sign t hs hsign
  -- Behind the sign, all that is left of the beginning of the phrase is its position.
  let s₀ : TokenStream := ⟨[], s.position⟩
  have hs₀ : s₀.Of (l.onFrom hs₁.suffix) := ⟨List.nil_suffix, .nil⟩
  have hadvances₀ : s₀.Advances (l.onFrom hs₁.suffix) s₁ :=
    { hadvances with of := hs₁.onFrom }
  obtain ⟨-, hcovers⟩ := hk _ s₀ s₁.last hs₀ hadvances₀ (le_refl s₁.last) heq
  intro c hc
  exact hadvances.position_lt_last.trans_le (hs₁.last_le_of_holds hcovers.holds c hc)

/-- A node of several parts behind a sign. -/
theorem compound {form : Form} {t : String} {f : Parser (List Node)}
    (hf : ∀ l, Reads l (Follows l) f fun ns => ∀ n ∈ ns, l.Holds n) :
    Headed l (compound form (sign t >>= fun _ => f)) := by
  intro s hs n s' heq
  refine ⟨Phrase.compound ((Reads.sign t).then fun _ _ => hf l) hs heq, ?_⟩
  rw [Parser.compound, bind_here_apply] at heq
  obtain ⟨parts, s₂, hparts, heq⟩ := of_bind_eq_some heq
  obtain ⟨_, s₁, hsign, hparts⟩ := of_bind_eq_some hparts
  obtain ⟨hs₁, hadvances, -⟩ := Reads.sign t hs hsign
  obtain ⟨-, -, hholds⟩ := hf (l.onFrom hs₁.suffix) hs₁.onFrom hparts
  cases heq
  intro c hc
  obtain ⟨m, hm, hc⟩ := Node.mem_callsOf.1 hc
  exact hadvances.position_lt_last.trans_le (hs₁.last_le_of_holds (hholds m hm) c hc)

end Headed

end TextDomain.Parser
