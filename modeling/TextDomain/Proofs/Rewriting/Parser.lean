import TextDomain.Proofs.Rewriting.Basic

/-!
# Parsers that read alike

Two parsers `Agree` if, on the tokens of an old text and those of the new one, they both
fail or both succeed, with results that correspond. The relation is that between the rules
of the grammar over two grammars for the phrases inside, so it is also what shows that the
depth of a grammar makes no difference as long as it exceeds what the tokens may cost.

Every way to combine parsers has a rule. Streams are bounded by their cost, and a parser
that takes a token leaves a stream that costs less: that is what a rule of the grammar may
ask of the grammar inside.

## Main results

* `Agrees.bind`, `Agrees.then` — parsers in sequence.
* `Agrees.many`, `Agrees.extend` — repetition, whose clock is always long enough.
* `Agrees.token` — a token that is no string is taken from both streams.
-/

namespace TextDomain

/-- What reading a token may cost: how deep the grammar may nest in it. -/
def Token.cost (t : Token) : Nat :=
  if t.kind = .string then max 2 (4 * t.text.length) else 2

/-- What reading tokens may cost. -/
def Token.costs (ts : List Token) : Nat := ts.foldr (fun t n => t.cost + n) 0

namespace Token

theorem two_le_cost (t : Token) : 2 ≤ t.cost := by
  unfold cost
  split <;> omega

@[simp] theorem costs_nil : costs [] = 0 := rfl

@[simp] theorem costs_cons (t : Token) (ts : List Token) : costs (t :: ts) = t.cost + costs ts :=
  rfl

theorem costs_append (ts us : List Token) : costs (ts ++ us) = costs ts + costs us := by
  induction ts with
  | nil => rw [List.nil_append, costs_nil, Nat.zero_add]
  | cons t ts ih => rw [List.cons_append, costs_cons, costs_cons, ih, Nat.add_assoc]

theorem cost_le_costs {t : Token} {ts : List Token} (h : t ∈ ts) : t.cost ≤ costs ts := by
  obtain ⟨before, after, rfl⟩ := List.append_of_mem h
  rw [costs_append, costs_cons]
  omega

end Token

open Token (costs)

namespace Rewriting

/-- The streams are what is left of an old text and of the new one. -/
structure StreamMaps (w : Rewriting) (s s' : TokenStream) : Prop where
  tokens : w.TokensMap s.rest s'.rest
  last : w.Maps s.last s'.last

/-- The first stream is left when at least `k` tokens of the second one are taken. -/
structure Leaves (k : Nat) (s₁ s : TokenStream) : Prop where
  suffix : s₁.rest <:+ s.rest
  length : s₁.rest.length + k ≤ s.rest.length

namespace Leaves

variable {k j : Nat} {s s₁ s₂ : TokenStream}

theorem refl (s : TokenStream) : Leaves 0 s s := ⟨List.suffix_refl _, Nat.le_refl _⟩

theorem trans (h : Leaves k s₁ s) (h' : Leaves j s₂ s₁) : Leaves (k + j) s₂ s :=
  ⟨h'.suffix.trans h.suffix, by have := h.length; have := h'.length; omega⟩

theorem mono (h : Leaves k s₁ s) (hle : j ≤ k) : Leaves j s₁ s :=
  ⟨h.suffix, by have := h.length; omega⟩

/-- What is taken has a cost. -/
theorem costs_le (h : Leaves k s₁ s) : costs s₁.rest + 2 * k ≤ costs s.rest := by
  obtain ⟨taken, htaken⟩ := h.suffix
  have hlength := h.length
  rw [← htaken, List.length_append] at hlength
  rw [← htaken, Token.costs_append]
  have hcost : 2 * taken.length ≤ costs taken := by
    clear htaken hlength
    induction taken with
    | nil => exact Nat.le_refl _
    | cons t ts ih =>
      have := t.two_le_cost
      rw [List.length_cons, Token.costs_cons]
      omega
  omega

theorem costs_le_of_le {n : Nat} (h : Leaves k s₁ s) (hn : costs s.rest ≤ n) :
    costs s₁.rest ≤ n := by
  have := h.costs_le
  omega

end Leaves

end Rewriting

namespace Parser

open Rewriting (Leaves)

variable {α β γ δ : Type} {w : Rewriting} {n k j : Nat} {V : α → β → Prop} {W : γ → δ → Prop}
  {p : Parser α} {q : Parser β}

/-- What two parsers come to on two streams: both fail, or both succeed. -/
inductive Outcome (w : Rewriting) (k : Nat) (V : α → β → Prop) (s s' : TokenStream) :
    Option (α × TokenStream) → Option (β × TokenStream) → Prop where
  /-- Both fail. -/
  | failed : Outcome w k V s s' none none
  /-- Both succeed, with at least `k` tokens taken from each stream. -/
  | read {x : α} {y : β} {s₁ s₁' : TokenStream} (value : V x y) (streams : w.StreamMaps s₁ s₁')
      (left : Leaves k s₁ s) (left' : Leaves k s₁' s') :
      Outcome w k V s s' (some (x, s₁)) (some (y, s₁'))

theorem Outcome.mono {s s' : TokenStream} {a : Option (α × TokenStream)}
    {b : Option (β × TokenStream)} (h : Outcome w k V s s' a b) (hk : j ≤ k) :
    Outcome w j V s s' a b := by
  cases h with
  | failed => exact .failed
  | read hv hs₁ hl hl' => exact .read hv hs₁ (hl.mono hk) (hl'.mono hk)

/-- What is read behind tokens that are taken. -/
theorem Outcome.behind {s s' s₁ s₁' : TokenStream} {a : Option (α × TokenStream)}
    {b : Option (β × TokenStream)} (h : Outcome w j V s₁ s₁' a b) (hl : Leaves k s₁ s)
    (hl' : Leaves k s₁' s') : Outcome w (k + j) V s s' a b := by
  cases h with
  | failed => exact .failed
  | read hv hs₂ hr hr' => exact .read hv hs₂ (hl.trans hr) (hl'.trans hr')

theorem bind_apply (p : Parser α) (f : α → Parser γ) (s : TokenStream) :
    (p >>= f) s = (p s).bind fun x => f x.1 x.2 := rfl

/-- What is read first, and then what is read behind it. -/
theorem Outcome.bind {s s' : TokenStream} {f : α → Parser γ} {f' : β → Parser δ}
    (h : Outcome w k V s s' (p s) (q s'))
    (hf : ∀ x y s₁ s₁', V x y → w.StreamMaps s₁ s₁' → Leaves k s₁ s → Leaves k s₁' s' →
      Outcome w j W s₁ s₁' (f x s₁) (f' y s₁')) :
    Outcome w (k + j) W s s' ((p >>= f) s) ((q >>= f') s') := by
  rw [bind_apply, bind_apply]
  generalize p s = a at h ⊢
  generalize q s' = b at h ⊢
  cases h with
  | failed => exact .failed
  | @read x y s₁ s₁' hv hs₁ hl hl' => exact (hf x y s₁ s₁' hv hs₁ hl hl').behind hl hl'

/-- On corresponding streams that cost at most `n`, both parsers fail, or both take at least
`k` tokens and have results that `V` relates. -/
def Agrees (w : Rewriting) (n k : Nat) (V : α → β → Prop) (p : Parser α) (q : Parser β) : Prop :=
  ∀ ⦃s s' : TokenStream⦄, w.StreamMaps s s' → costs s.rest ≤ n → costs s'.rest ≤ n →
    Outcome w k V s s' (p s) (q s')

namespace Agrees

theorem imp {V' : α → β → Prop} (h : Agrees w n k V p q) (himp : ∀ x y, V x y → V' x y) :
    Agrees w n k V' p q := by
  intro s s' hs hn hn'
  have hread := h hs hn hn'
  generalize p s = a at hread ⊢
  generalize q s' = b at hread ⊢
  cases hread with
  | failed => exact .failed
  | read hv hs₁ hl hl' => exact .read (himp _ _ hv) hs₁ hl hl'

/-- Fewer tokens may be asked for, and cheaper streams. -/
theorem mono {m : Nat} (h : Agrees w n k V p q) (hk : j ≤ k) (hm : m ≤ n) :
    Agrees w m j V p q :=
  fun _ _ hs hn hn' => (h hs (hn.trans hm) (hn'.trans hm)).mono hk

theorem weaken (h : Agrees w n k V p q) : Agrees w n 0 V p q :=
  h.mono (Nat.zero_le k) (Nat.le_refl n)

/-! ## Sequence -/

theorem pure {x : α} {y : β} (h : V x y) :
    Agrees w n 0 V (pure x : Parser α) (pure y : Parser β) :=
  fun s s' hs _ _ => .read h hs (.refl s) (.refl s')

theorem failure : Agrees w n k V (failure : Parser α) (failure : Parser β) :=
  fun _ _ _ _ _ => .failed

/-- Behind a parser that takes tokens the streams are cheaper. -/
theorem bind_of_le {f : α → Parser γ} {f' : β → Parser δ} (hp : Agrees w n k V p q)
    (hf : ∀ x y, V x y → ∀ m, m + 2 * k ≤ n → Agrees w m j W (f x) (f' y)) :
    Agrees w n (k + j) W (p >>= f) (q >>= f') := by
  intro s s' hs hn hn'
  refine (hp hs hn hn').bind fun x y s₁ s₁' hv hs₁ hl hl' => ?_
  have hle := hl.costs_le
  have hle' := hl'.costs_le
  exact hf x y hv (max (costs s₁.rest) (costs s₁'.rest)) (by omega) hs₁ (Nat.le_max_left _ _)
    (Nat.le_max_right _ _)

/-- A parser and then another one. -/
theorem bind {f : α → Parser γ} {f' : β → Parser δ} (hp : Agrees w n k V p q)
    (hf : ∀ x y, V x y → Agrees w n j W (f x) (f' y)) : Agrees w n j W (p >>= f) (q >>= f') :=
  (hp.bind_of_le fun x y hv m hm => (hf x y hv).mono (Nat.le_refl j) (by omega : m ≤ n)).mono
    (by omega) (Nat.le_refl n)

/-- A parser that takes a token, and then another one. -/
theorem next {f : α → Parser γ} {f' : β → Parser δ} (hp : Agrees w n 1 V p q)
    (hf : ∀ x y, V x y → Agrees w n 0 W (f x) (f' y)) : Agrees w n 1 W (p >>= f) (q >>= f') :=
  hp.bind_of_le fun x y hv _ hm => (hf x y hv).mono (Nat.le_refl 0) (by omega)

/-- A parser that takes a token, and then another one on cheaper streams. -/
theorem «then» {f : α → Parser γ} {f' : β → Parser δ} (hp : Agrees w n 1 V p q)
    (hf : ∀ x y, V x y → ∀ m, m + 2 ≤ n → Agrees w m 0 W (f x) (f' y)) :
    Agrees w n 1 W (p >>= f) (q >>= f') :=
  hp.bind_of_le hf

/-- A parser whose result is of no interest, and then another one. -/
theorem after {q₁ : Parser γ} {q₂ : Parser δ} (hp : Agrees w n 1 V p q)
    (hq : Agrees w n j W q₁ q₂) : Agrees w n 1 W (p *> q₁) (q *> q₂) :=
  hp.next fun _ _ _ => hq.weaken

/-- The results are made into others. -/
theorem map {f : α → γ} {f' : β → δ} (hp : Agrees w n k V p q)
    (hf : ∀ x y, V x y → W (f x) (f' y)) :
    Agrees w n k W (p >>= fun x => Pure.pure (f x)) (q >>= fun y => Pure.pure (f' y)) :=
  hp.bind_of_le (j := 0) fun x y hv _ _ => .pure (hf x y hv)

/-- At the end the results are made into others. -/
theorem finish {f : α → γ} {f' : β → δ} (hp : Agrees w n k V p q)
    (hf : ∀ x y, V x y → W (f x) (f' y)) :
    Agrees w n 0 W (p >>= fun x => Pure.pure (f x)) (q >>= fun y => Pure.pure (f' y)) :=
  (hp.map hf).weaken

/-- The same is done with corresponding items one after another. What it says of each item
of the first list by itself is kept too. -/
theorem mapM {α' β' : Type} {R : α' → β' → Prop} {P : α' → α → Prop} {xs : List α'} {ys : List β'}
    {f : α' → Parser α} {f' : β' → Parser β} (h : List.Forall₂ R xs ys)
    (hf : ∀ x y, R x y → Agrees w n 0 (fun a b => V a b ∧ P x a) (f x) (f' y)) :
    Agrees w n 0 (fun as bs => List.Forall₂ V as bs ∧ ∀ x ∈ xs, ∃ a ∈ as, P x a)
      (xs.mapM f) (ys.mapM f') := by
  induction h with
  | nil =>
    rw [List.mapM_nil, List.mapM_nil]
    exact .pure ⟨.nil, nofun⟩
  | cons hxy _ ih =>
    rw [List.mapM_cons, List.mapM_cons]
    refine (hf _ _ hxy).bind fun a b hab => ih.finish fun as bs has => ?_
    refine ⟨.cons hab.1 has.1, List.forall_mem_cons.2 ⟨⟨a, List.mem_cons_self .., hab.2⟩, ?_⟩⟩
    intro x hx
    obtain ⟨a', ha', hpa⟩ := has.2 x hx
    exact ⟨a', List.mem_cons_of_mem a ha', hpa⟩

/-- What fails or succeeds without a look at the stream. -/
theorem ofOption {o : Option α} {o' : Option β} (h : Option.Rel V o o') :
    Agrees w n 0 V (o : Parser α) (o' : Parser β) := by
  cases h with
  | none => exact .failure
  | some h => exact .pure h

/-! ## Choice -/

/-- One of two parsers, by a test that comes out alike. -/
theorem dite {b b' : Bool} {p₁ p₂ : Parser α} {q₁ q₂ : Parser β} (hb : b = b')
    (h₁ : b = true → Agrees w n k V p₁ q₁) (h₂ : b = false → Agrees w n k V p₂ q₂) :
    Agrees w n k V (if b = true then p₁ else p₂) (if b' = true then q₁ else q₂) := by
  subst hb
  cases b with
  | true => exact h₁ rfl
  | false => exact h₂ rfl

theorem ite {b b' : Bool} {p₁ p₂ : Parser α} {q₁ q₂ : Parser β} (hb : b = b')
    (h₁ : Agrees w n k V p₁ q₁) (h₂ : Agrees w n k V p₂ q₂) :
    Agrees w n k V (if b = true then p₁ else p₂) (if b' = true then q₁ else q₂) :=
  .dite hb (fun _ => h₁) fun _ => h₂

/-- A test and then one of two parsers. -/
theorem branch {t t' : Parser Bool} {p₁ p₂ : Parser α} {q₁ q₂ : Parser β}
    (ht : Agrees w n j Eq t t') (h₁ : Agrees w n k V p₁ q₁) (h₂ : Agrees w n k V p₂ q₂) :
    Agrees w n k V (t >>= fun b => if b = true then p₁ else p₂)
      (t' >>= fun b => if b = true then q₁ else q₂) :=
  ht.bind fun _ _ hb => .ite hb h₁ h₂

theorem orElse {p' : Parser α} {q' : Parser β} (h : Agrees w n k V p q)
    (h' : Agrees w n k V p' q') : Agrees w n k V (p <|> p') (q <|> q') := by
  intro s s' hs hn hn'
  have hread := h hs hn hn'
  show Outcome w k V s s' (p s <|> p' s) (q s' <|> q' s')
  generalize p s = a at hread ⊢
  generalize q s' = b at hread ⊢
  cases hread with
  | failed => exact h' hs hn hn'
  | read hv hs₁ hl hl' => exact .read hv hs₁ hl hl'

theorem optional (h : Agrees w n k V p q) :
    Agrees w n 0 (Option.Rel V) (optional? p) (optional? q) := by
  intro s s' hs hn hn'
  have hread := h hs hn hn'
  unfold optional?
  generalize p s = a at hread ⊢
  generalize q s' = b at hread ⊢
  cases hread with
  | failed => exact .read .none hs (.refl s) (.refl s')
  | read hv hs₁ hl hl' =>
    exact .read (.some hv) hs₁ (hl.mono (Nat.zero_le _)) (hl'.mono (Nat.zero_le _))

/-- What is tried first takes a token, and so does what is done otherwise. -/
theorem attempt {f : Option α → Parser γ} {f' : Option β → Parser δ} (hp : Agrees w n 1 V p q)
    (hsome : ∀ x y, V x y → Agrees w n 0 W (f (some x)) (f' (some y)))
    (hnone : Agrees w n 1 W (f none) (f' none)) :
    Agrees w n 1 W (optional? p >>= f) (optional? q >>= f') := by
  intro s s' hs hn hn'
  have hread := hp hs hn hn'
  rw [bind_apply, bind_apply]
  unfold optional?
  generalize p s = a at hread ⊢
  generalize q s' = b at hread ⊢
  cases hread with
  | failed => exact hnone hs hn hn'
  | @read x y s₁ s₁' hv hs₁ hl hl' =>
    exact (hsome x y hv hs₁ (hl.costs_le_of_le hn) (hl'.costs_le_of_le hn')).behind hl hl'

/-! ## Repetition -/

/-- Clocks that are as long as the streams are long enough. -/
theorem manyWithin (h : Agrees w n 1 V p q) {c c' : List Token} {s s' : TokenStream}
    (hs : w.StreamMaps s s') (hn : costs s.rest ≤ n) (hn' : costs s'.rest ≤ n)
    (hc : s.rest.length ≤ c.length) (hc' : s'.rest.length ≤ c'.length) :
    Outcome w 0 (List.Forall₂ V) s s' (some (manyWithin p c s)) (some (manyWithin q c' s')) := by
  induction c generalizing c' s s' with
  | nil =>
    have hread := h hs hn hn'
    rw [Parser.manyWithin]
    cases c' with
    | nil => exact .read .nil hs (.refl s) (.refl s')
    | cons x c' =>
      rw [Parser.manyWithin]
      generalize p s = a at hread
      generalize q s' = b at hread ⊢
      cases hread with
      | failed => exact .read .nil hs (.refl s) (.refl s')
      | read _ _ hl _ =>
        have := hl.length
        rw [List.length_nil] at hc
        omega
  | cons x c ih =>
    have hread := h hs hn hn'
    cases c' with
    | nil =>
      rw [Parser.manyWithin, Parser.manyWithin]
      generalize p s = a at hread ⊢
      generalize q s' = b at hread
      cases hread with
      | failed => exact .read .nil hs (.refl s) (.refl s')
      | read _ _ _ hl' =>
        have := hl'.length
        rw [List.length_nil] at hc'
        omega
    | cons x' c' =>
      rw [Parser.manyWithin, Parser.manyWithin]
      generalize p s = a at hread ⊢
      generalize q s' = b at hread ⊢
      cases hread with
      | failed => exact .read .nil hs (.refl s) (.refl s')
      | @read y y' s₁ s₁' hv hs₁ hl hl' =>
        have hlength := hl.length
        have hlength' := hl'.length
        have hcost := hl.costs_le
        have hcost' := hl'.costs_le
        rw [List.length_cons] at hc hc'
        have hmore := ih hs₁ (by omega) (by omega) (by omega)
          (show s₁'.rest.length ≤ c'.length by omega)
        dsimp only
        generalize Parser.manyWithin p c s₁ = a at hmore ⊢
        generalize Parser.manyWithin q c' s₁' = b at hmore ⊢
        obtain ⟨xs, s₂⟩ := a
        obtain ⟨ys, s₂'⟩ := b
        cases hmore with
        | read hvs hs₂ hr hr' =>
          exact .read (.cons hv hvs) hs₂ ((hl.trans hr).mono (Nat.zero_le _))
            ((hl'.trans hr').mono (Nat.zero_le _))

theorem many (h : Agrees w n 1 V p q) :
    Agrees w n 0 (List.Forall₂ V) (Parser.many p) (Parser.many q) :=
  fun _ _ hs hn hn' => h.manyWithin hs hn hn' (Nat.le_refl _) (Nat.le_refl _)

theorem many₁ (h : Agrees w n 1 V p q) :
    Agrees w n 1 (List.Forall₂ V) (Parser.many₁ p) (Parser.many₁ q) :=
  h.next fun _ _ hv => h.many.finish fun _ _ hvs => .cons hv hvs

theorem extendWithin {f : α → Parser α} {f' : β → Parser β}
    (h : ∀ x y, V x y → Agrees w n 1 V (f x) (f' y)) {c c' : List Token} {s s' : TokenStream}
    {x : α} {y : β} (hv : V x y) (hs : w.StreamMaps s s') (hn : costs s.rest ≤ n)
    (hn' : costs s'.rest ≤ n) (hc : s.rest.length ≤ c.length) (hc' : s'.rest.length ≤ c'.length) :
    Outcome w 0 V s s' (some (extendWithin f c x s)) (some (extendWithin f' c' y s')) := by
  induction c generalizing c' s s' x y with
  | nil =>
    have hread := h x y hv hs hn hn'
    rw [Parser.extendWithin]
    cases c' with
    | nil => exact .read hv hs (.refl s) (.refl s')
    | cons a c' =>
      rw [Parser.extendWithin]
      generalize f x s = a at hread
      generalize f' y s' = b at hread ⊢
      cases hread with
      | failed => exact .read hv hs (.refl s) (.refl s')
      | read _ _ hl _ =>
        have := hl.length
        rw [List.length_nil] at hc
        omega
  | cons a c ih =>
    have hread := h x y hv hs hn hn'
    cases c' with
    | nil =>
      rw [Parser.extendWithin, Parser.extendWithin]
      generalize f x s = a at hread ⊢
      generalize f' y s' = b at hread
      cases hread with
      | failed => exact .read hv hs (.refl s) (.refl s')
      | read _ _ _ hl' =>
        have := hl'.length
        rw [List.length_nil] at hc'
        omega
    | cons a' c' =>
      rw [Parser.extendWithin, Parser.extendWithin]
      generalize f x s = a at hread ⊢
      generalize f' y s' = b at hread ⊢
      cases hread with
      | failed => exact .read hv hs (.refl s) (.refl s')
      | @read x₁ y₁ s₁ s₁' hv₁ hs₁ hl hl' =>
        have hlength := hl.length
        have hlength' := hl'.length
        have hcost := hl.costs_le
        have hcost' := hl'.costs_le
        rw [List.length_cons] at hc hc'
        have hmore := ih hv₁ hs₁ (by omega) (by omega) (by omega)
          (show s₁'.rest.length ≤ c'.length by omega)
        dsimp only
        generalize Parser.extendWithin f c x₁ s₁ = a at hmore ⊢
        generalize Parser.extendWithin f' c' y₁ s₁' = b at hmore ⊢
        obtain ⟨x₂, s₂⟩ := a
        obtain ⟨y₂, s₂'⟩ := b
        cases hmore with
        | read hv₂ hs₂ hr hr' =>
          exact .read hv₂ hs₂ ((hl.trans hr).mono (Nat.zero_le _))
            ((hl'.trans hr').mono (Nat.zero_le _))

theorem extend {f : α → Parser α} {f' : β → Parser β}
    (h : ∀ x y, V x y → Agrees w n 1 V (f x) (f' y)) {x : α} {y : β} (hv : V x y) :
    Agrees w n 0 V (Parser.extend f x) (Parser.extend f' y) :=
  fun _ _ hs hn hn' => extendWithin h hv hs hn hn' (Nat.le_refl _) (Nat.le_refl _)

end Agrees

end Parser

end TextDomain
