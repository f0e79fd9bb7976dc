import TextDomain.Proofs.Source.Bounds
import TextDomain.Source.Grammar

/-!
# What a parser takes from a text

A parser that succeeds leaves the stream of tokens somewhere behind where it
found it. `Reads` says how the streams before and after are related and what is
known of the result. Three relations occur: the streams are equal, for tests;
the later one `Follows` the earlier one inside a phrase, where tokens are
written with something; or it is anywhere behind it, once layout is taken.
`Advances` is what follows with a token at least, and so ends behind a character.

Every way to combine parsers has a rule, so a rule of the grammar is read off as
it is written. What is asked of its result is that the calls in it lie in the
text.

## Main results

* `Reads.bind`, `Reads.then` — parsers in sequence.
* `Reads.many`, `Reads.extend`, `Reads.optional`, `Reads.orElse` — repetition
  and choice.
* `Reads.token` — a token that is written with something is taken.
-/

namespace TextDomain

open Token (Lexed Runs isLayoutKind)

/-! ## Streams -/

namespace TokenStream

/-- Where the next token begins. -/
def position (s : TokenStream) : Position := (s.rest.head?.map (·.extent.start)).getD s.last

/-- The stream is what is left of the tokens of a text. -/
structure Of (s : TokenStream) (l : Lexed) : Prop where
  suffix : s.rest <:+ l.tokens
  runs : Runs s.last s.rest

variable {s s' s'' : TokenStream} {l : Lexed}

theorem Of.last_le_position (h : s.Of l) : s.last ≤ s.position := by
  obtain ⟨rest, last⟩ := s
  cases h.runs with
  | nil => exact le_refl last
  | cons hle => exact hle

theorem of_tokens (l : Lexed) : Of ⟨l.tokens, l.origin⟩ l := ⟨List.suffix_refl _, l.runs⟩

/-- The stream is one of the text looked at from the next token on. -/
theorem Of.onFrom (h : s.Of l) : s.Of (l.onFrom h.suffix) := ⟨List.suffix_refl _, h.runs⟩

/-- What lies behind a token that is left lies behind the last one taken. -/
theorem Of.last_le_of_behind (h : s.Of l) {p : Position} (hp : (l.onFrom h.suffix).Behind p) :
    s.last ≤ p := by
  obtain ⟨t, ht, hle⟩ := hp
  exact (h.runs.le_start ht).trans hle

/-- Calls that are read from the tokens that are left begin behind the last one taken. -/
theorem Of.last_le_of_holds (h : s.Of l) {n : Node} (hn : (l.onFrom h.suffix).Holds n) :
    ∀ c ∈ n.calls, s.last ≤ c.extent.start :=
  fun c hc => h.last_le_of_behind (hn.calls c hc).behind

/-- With a token left, the next one begins where the stream stands. -/
theorem Of.behind_position (h : s.Of l) (hne : s.rest ≠ []) : l.Behind s.position := by
  obtain ⟨rest, last⟩ := s
  cases rest with
  | nil => exact absurd rfl hne
  | cons t ts => exact ⟨t, h.suffix.subset (List.mem_cons_self ..), le_refl t.extent.start⟩

/-- The stream has gone on to another one, which stands behind a character. -/
structure Advances (l : Lexed) (s s' : TokenStream) : Prop where
  of : s'.Of l
  start : l.Inside s.position
  stop : l.Inside s'.last
  position_lt_last : s.position < s'.last

/-- The stream has stayed where it is or gone on. -/
def Follows (l : Lexed) (s s' : TokenStream) : Prop := s = s' ∨ s.Advances l s'

/-- The stream has come somewhere. -/
def Anywhere (_ _ : TokenStream) : Prop := True

theorem Advances.trans (h : s.Advances l s') (h' : s'.Advances l s'') : s.Advances l s'' where
  of := h'.of
  start := h.start
  stop := h'.stop
  position_lt_last :=
    (h.position_lt_last.trans_le h.of.last_le_position).trans h'.position_lt_last

theorem Advances.trans_follows (h : s.Advances l s') (h' : s'.Follows l s'') :
    s.Advances l s'' := by
  rcases h' with rfl | h'
  · exact h
  · exact h.trans h'

theorem Follows.trans_advances (h : s.Follows l s') (h' : s'.Advances l s'') :
    s.Advances l s'' := by
  rcases h with rfl | h
  · exact h'
  · exact h.trans h'

theorem Follows.trans (h : s.Follows l s') (h' : s'.Follows l s'') : s.Follows l s'' := by
  rcases h' with rfl | h'
  · exact h
  · exact .inr (h.trans_advances h')

theorem Advances.last_lt_last (h : s.Advances l s') (hs : s.Of l) : s.last < s'.last :=
  hs.last_le_position.trans_lt h.position_lt_last

theorem Follows.last_le_last (h : s.Follows l s') (hs : s.Of l) : s.last ≤ s'.last := by
  rcases h with rfl | h
  · exact le_refl _
  · exact (h.last_lt_last hs).le

instance : Std.Refl (Follows l) := ⟨fun _ => .inl rfl⟩

instance : Std.Refl Anywhere := ⟨fun _ => trivial⟩

instance : Trans (Follows l) (Follows l) (Follows l) := ⟨Follows.trans⟩

instance : Trans (Advances l) (Follows l) (Follows l) :=
  ⟨fun h h' => .inr (h.trans_follows h')⟩

instance : Trans (Advances l) (Advances l) (Advances l) := ⟨Advances.trans⟩

instance {R : TokenStream → TokenStream → Prop} : Trans R Anywhere Anywhere :=
  ⟨fun _ _ => trivial⟩

/-- What `R` relates is related by the preorder `T`, which allows for no steps
and for many. -/
class Relaxes (R : TokenStream → TokenStream → Prop)
    (T : outParam (TokenStream → TokenStream → Prop)) : Prop where
  refl (s : TokenStream) : T s s
  step {s s' : TokenStream} : R s s' → T s s'
  trans {s s' s'' : TokenStream} : T s s' → T s' s'' → T s s''

instance : Relaxes (Advances l) (Follows l) := ⟨fun _ => .inl rfl, .inr, Follows.trans⟩

instance : Relaxes (Follows l) (Follows l) := ⟨fun _ => .inl rfl, id, Follows.trans⟩

instance : Relaxes Anywhere Anywhere := ⟨fun _ => trivial, id, fun _ _ => trivial⟩

end TokenStream

open TokenStream (Advances Follows Anywhere Relaxes)

namespace Parser

variable {α β : Type} {l : Lexed} {R T : TokenStream → TokenStream → Prop} {p : Parser α}
  {q : Parser β} {P : α → Prop} {Q : β → Prop} {s s' : TokenStream}

/-! ## Runs that succeed -/

theorem of_bind_eq_some {f : α → Parser β} {y : β} (h : (p >>= f) s = some (y, s')) :
    ∃ x s₁, p s = some (x, s₁) ∧ f x s₁ = some (y, s') := by
  obtain ⟨⟨x, s₁⟩, hp, hf⟩ := Option.bind_eq_some_iff.1 h
  exact ⟨x, s₁, hp, hf⟩

theorem of_pure_eq_some {x y : α} (h : (pure x : Parser α) s = some (y, s')) : x = y ∧ s = s' :=
  Prod.mk.inj (Option.some.inj h)

theorem bind_here_apply (f : Position → Parser β) (s : TokenStream) :
    (here >>= f) s = f s.position s := rfl

/-- What one extension keeps, all of them keep. -/
theorem of_extend_eq_some {f : α → Parser α} {I : α → TokenStream → Prop}
    (hstep : ∀ x s x' s', I x s → f x s = some (x', s') → I x' s') {x y : α} (hx : I x s)
    (h : extend f x s = some (y, s')) : I y s' := by
  have hclock : ∀ (clock : List Token) {x : α} {s : TokenStream}, I x s →
      I (extendWithin f clock x s).1 (extendWithin f clock x s).2 := by
    intro clock
    induction clock with
    | nil => exact fun hx => hx
    | cons _ clock ih =>
      intro x s hx
      rw [extendWithin]
      split
      next => exact hx
      next x₁ s₁ hf => exact ih (hstep x s x₁ s₁ hx hf)
  obtain ⟨rfl, rfl⟩ := Prod.mk.inj (Option.some.inj h)
  exact hclock s.rest hx

/-- Wherever in the text the parser succeeds, the streams before and after are
related by `R`, and the result is as `P` says. -/
def Reads (l : Lexed) (R : TokenStream → TokenStream → Prop) (p : Parser α) (P : α → Prop) : Prop :=
  ∀ ⦃s : TokenStream⦄, s.Of l → ∀ ⦃x s'⦄, p s = some (x, s') → s'.Of l ∧ R s s' ∧ P x

namespace Reads

theorem imp {P' : α → Prop} (h : Reads l R p P) (himp : ∀ x, P x → P' x) : Reads l R p P' := by
  intro s hs x s' heq
  obtain ⟨hs', hr, hx⟩ := h hs heq
  exact ⟨hs', hr, himp x hx⟩

/-- What is read in a phrase is read anywhere. -/
theorem lift [Trans R T T] [Std.Refl T] (h : Reads l R p P) : Reads l T p P := by
  intro s hs x s' heq
  obtain ⟨hs', hr, hx⟩ := h hs heq
  exact ⟨hs', Trans.trans hr (Std.Refl.refl (r := T) s'), hx⟩

theorem ignore (h : Reads l R p P) : Reads l R p fun _ => True := h.imp fun _ _ => trivial

/-! ## Sequence -/

theorem pure [Std.Refl T] {x : α} (h : P x) : Reads l T (pure x : Parser α) P := by
  intro s hs y s' heq
  obtain ⟨rfl, rfl⟩ := of_pure_eq_some heq
  exact ⟨hs, Std.Refl.refl s, h⟩

/-- A parser and then another one. -/
theorem bind [Trans R T T] {f : α → Parser β} (hp : Reads l R p P)
    (hf : ∀ x, P x → Reads l T (f x) Q) : Reads l T (p >>= f) Q := by
  intro s hs y s' heq
  obtain ⟨x, s₁, hx, hy⟩ := of_bind_eq_some heq
  obtain ⟨hs₁, hr, hpx⟩ := hp hs hx
  obtain ⟨hs', ht, hqy⟩ := hf x hpx hs₁ hy
  exact ⟨hs', Trans.trans hr ht, hqy⟩

/-- A parser that takes a token, and then another one. -/
theorem «then» {f : α → Parser β} (hp : Reads l (Advances l) p P)
    (hf : ∀ x, P x → Reads l (Follows l) (f x) Q) : Reads l (Advances l) (p >>= f) Q := by
  intro s hs y s' heq
  obtain ⟨x, s₁, hx, hy⟩ := of_bind_eq_some heq
  obtain ⟨hs₁, hr, hpx⟩ := hp hs hx
  obtain ⟨hs', ht, hqy⟩ := hf x hpx hs₁ hy
  exact ⟨hs', hr.trans_follows ht, hqy⟩

/-- A parser whose result is of no interest, and then another one. -/
theorem after [Trans R T T] (hp : Reads l R p P) (hq : Reads l T q Q) : Reads l T (p *> q) Q :=
  hp.bind fun _ _ => hq

/-- The result is made into another one. -/
theorem finish [Trans R T T] [Std.Refl T] {f : α → β} (hp : Reads l R p P)
    (hf : ∀ x, P x → Q (f x)) : Reads l T (p >>= fun x => Pure.pure (f x)) Q :=
  hp.bind fun x hx => .pure (hf x hx)

theorem map [Trans R T T] [Std.Refl T] {f : α → β} (hp : Reads l R p P)
    (hf : ∀ x, P x → Q (f x)) : Reads l T (f <$> p) Q := hp.finish hf

theorem mapM [Trans T T T] [Std.Refl T] {f : α → Parser β} {xs : List α}
    (h : ∀ x ∈ xs, Reads l T (f x) Q) : Reads l T (xs.mapM f) fun ys => ∀ y ∈ ys, Q y := by
  induction xs with
  | nil =>
    rw [List.mapM_nil]
    exact .pure fun y hy => by cases hy
  | cons x xs ih =>
    rw [List.mapM_cons]
    refine (h x (List.mem_cons_self ..)).bind fun y hy => ?_
    refine (ih fun x' hx' => h x' (List.mem_cons_of_mem x hx')).finish fun ys hys => ?_
    exact List.forall_mem_cons.2 ⟨hy, hys⟩

/-! ## Choice -/

theorem failure : Reads l R (failure : Parser α) P := by
  intro s _ x s' heq
  cases heq

theorem ite {b : Bool} {p₁ p₂ : Parser α} (h₁ : Reads l R p₁ P) (h₂ : Reads l R p₂ P) :
    Reads l R (if b = true then p₁ else p₂) P := by
  cases b with
  | true => exact h₁
  | false => exact h₂

/-- A test and then one of two parsers. -/
theorem branch [Trans R T T] {t : Parser Bool} {P' : Bool → Prop} {p₁ p₂ : Parser α}
    (ht : Reads l R t P') (h₁ : Reads l T p₁ P) (h₂ : Reads l T p₂ P) :
    Reads l T (t >>= fun b => if b = true then p₁ else p₂) P :=
  ht.bind fun _ _ => .ite h₁ h₂

theorem orElse {p' : Parser α} (h : Reads l R p P) (h' : Reads l R p' P) :
    Reads l R (p <|> p') P := by
  intro s hs x s' heq
  have heq : (p s <|> p' s) = some (x, s') := heq
  cases hp : p s with
  | none =>
    rw [hp] at heq
    exact h' hs heq
  | some r =>
    rw [hp] at heq
    cases heq
    exact h hs hp

theorem optional [Relaxes R T] (h : Reads l R p P) :
    Reads l T (optional? p) fun o => ∀ x ∈ o, P x := by
  intro s hs o s' heq
  unfold optional? at heq
  split at heq
  next x s₁ hp =>
    cases heq
    obtain ⟨hs', hr, hx⟩ := h hs hp
    exact ⟨hs', Relaxes.step hr, fun y hy => Option.some.inj hy ▸ hx⟩
  next =>
    cases heq
    exact ⟨hs, Relaxes.refl R s, nofun⟩

/-! ## Repetition -/

theorem manyWithin [Relaxes R T] (h : Reads l R p P) (clock : List Token) (hs : s.Of l) :
    (Parser.manyWithin p clock s).2.Of l ∧ T s (Parser.manyWithin p clock s).2 ∧
      ∀ x ∈ (Parser.manyWithin p clock s).1, P x := by
  induction clock generalizing s with
  | nil => exact ⟨hs, Relaxes.refl R s, nofun⟩
  | cons _ clock ih =>
    rw [Parser.manyWithin]
    split
    next => exact ⟨hs, Relaxes.refl R s, nofun⟩
    next x s₁ hp =>
      obtain ⟨hs₁, hr, hx⟩ := h hs hp
      obtain ⟨hs', ht, hxs⟩ := ih hs₁
      exact ⟨hs', Relaxes.trans R (Relaxes.step hr) ht, List.forall_mem_cons.2 ⟨hx, hxs⟩⟩

theorem many [Relaxes R T] (h : Reads l R p P) :
    Reads l T (many p) fun xs => ∀ x ∈ xs, P x := by
  intro s hs xs s' heq
  obtain ⟨rfl, rfl⟩ := Prod.mk.inj (Option.some.inj heq)
  exact h.manyWithin s.rest hs

theorem many₁ [Relaxes R T] (h : Reads l R p P) :
    Reads l T (many₁ p) fun xs => ∀ x ∈ xs, P x := by
  intro s hs xs s' heq
  obtain ⟨x, s₁, hx, heq⟩ := of_bind_eq_some heq
  obtain ⟨more, s₂, hmore, heq⟩ := of_bind_eq_some heq
  obtain ⟨rfl, rfl⟩ := of_pure_eq_some heq
  obtain ⟨hs₁, hr, hx⟩ := h hs hx
  obtain ⟨hs', ht, hxs⟩ := h.many hs₁ hmore
  exact ⟨hs', Relaxes.trans R (Relaxes.step hr) ht, List.forall_mem_cons.2 ⟨hx, hxs⟩⟩

theorem extend [Relaxes R T] {f : α → Parser α} (h : ∀ x, P x → Reads l R (f x) P) {x : α}
    (hx : P x) : Reads l T (extend f x) P := by
  intro s hs y s' heq
  refine of_extend_eq_some (I := fun x s' => s'.Of l ∧ T s s' ∧ P x) ?_
    ⟨hs, Relaxes.refl R s, hx⟩ heq
  rintro x₁ s₁ x₂ s₂ ⟨hs₁, ht, hx₁⟩ hf
  obtain ⟨hs₂, hr, hx₂⟩ := h x₁ hx₁ hs₁ hf
  exact ⟨hs₂, Relaxes.trans R ht (Relaxes.step hr), hx₂⟩

/-! ## Tests -/

/-- What only looks at the stream leaves it as it is. -/
theorem look (f : TokenStream → α) :
    Reads l Eq (fun s => some (f s, s) : Parser α) fun _ => True := by
  intro s hs x s' heq
  cases heq
  exact ⟨hs, rfl, trivial⟩

theorem peek : Reads l Eq peek fun _ => True := look _

theorem here : Reads l Eq here fun _ => True := look _

theorem lastEnd : Reads l Eq lastEnd fun _ => True := look _

theorem nextIs (t : Token → Bool) : Reads l Eq (nextIs t) fun _ => True := look _

theorem signNext (t : String) : Reads l Eq (signNext t) fun _ => True := nextIs _

theorem wordNext (t : String) : Reads l Eq (wordNext t) fun _ => True := nextIs _

theorem nameThenSign (t : String) : Reads l Eq (nameThenSign t) fun _ => True := by
  have hpeek : Reads l Eq peek₂ fun _ => True := look _
  refine hpeek.bind fun next _ => ?_
  match next with
  | (some a, some b) => exact .pure trivial
  | (none, _) => exact .pure trivial
  | (some a, none) => exact .pure trivial

theorem check (b : Bool) : Reads l Eq (check b) fun _ => b = true := by
  cases b with
  | true => exact .pure rfl
  | false => exact .failure

theorem ofOption (o : Option α) : Reads l Eq (o : Parser α) fun x => o = some x := by
  cases o with
  | none => exact .failure
  | some x => exact .pure rfl

/-- A choice by the next token. -/
theorem dispatch [Trans Eq R R] {f : Token → Parser α} (h : ∀ t, Reads l R (f t) P) :
    Reads l R (Parser.peek >>= fun next => match next with
      | none => Alternative.failure
      | some t => f t) P := by
  refine peek.bind fun next _ => ?_
  cases next with
  | none => exact .failure
  | some t => exact h t

/-! ## Tokens -/

/-- A token of the text is taken, whatever it is. -/
theorem anyToken (t : Token → Bool) :
    Reads l Anywhere (Parser.token t) fun u => u ∈ l.tokens ∧ t u = true := by
  intro s hs u s' heq
  obtain ⟨rest, last⟩ := s
  cases rest with
  | nil => cases heq
  | cons v r =>
    unfold Parser.token at heq
    dsimp only at heq
    split at heq
    next ht =>
      cases heq
      have hmem : u ∈ l.tokens := hs.suffix.subset (List.mem_cons_self ..)
      cases hs.runs with
      | cons _ _ hruns =>
        exact ⟨⟨(List.suffix_cons u r).trans hs.suffix, hruns⟩, trivial, hmem, ht⟩
    next => cases heq

end Reads

/-- Tests that no token of layout passes. -/
def Solid (t : Token → Bool) : Prop := ∀ ⦃u : Token⦄, t u = true → isLayoutKind u.kind = false

theorem solid_spelling {k : TokenKind} (hk : isLayoutKind k = false) (f : Token → Bool) :
    Solid fun u => u.kind == k && f u := by
  intro u hu
  have hkind : u.kind = k := eq_of_beq (Bool.and_eq_true_iff.1 hu).1
  rw [hkind]
  exact hk

theorem solid_isSign (t : String) : Solid (isSign · t) := solid_spelling rfl _

theorem solid_isWord (t : String) : Solid (isWord · t) := solid_spelling rfl _

theorem solid_isIdentifier : Solid isIdentifier := solid_spelling rfl _

theorem solid_kind {k : TokenKind} (hk : isLayoutKind k = false) : Solid (·.kind == k) := by
  intro u hu
  rw [eq_of_beq hu]
  exact hk

theorem Solid.or {t t' : Token → Bool} (h : Solid t) (h' : Solid t') :
    Solid fun u => t u || t' u := by
  intro u hu
  rcases Bool.or_eq_true_iff.1 hu with hu | hu
  · exact h hu
  · exact h' hu

theorem Solid.and {t : Token → Bool} (h : Solid t) (t' : Token → Bool) :
    Solid fun u => t u && t' u :=
  fun _ hu => h (Bool.and_eq_true_iff.1 hu).1

theorem solid_any_isSign (signs : List String) : Solid fun u => signs.any (isSign u) := by
  intro u hu
  obtain ⟨t, -, ht⟩ := List.any_eq_true.1 hu
  exact solid_isSign t ht

/-- A stream from which a token was taken. -/
structure Takes (l : Lexed) (t : Token) (s s' : TokenStream) : Prop where
  start : s.position = t.extent.start
  stop : s'.last = t.extent.stop
  advances : s.Advances l s'

theorem takes_of_token {t : Token → Bool} (hs : s.Of l) {u : Token}
    (h : token t s = some (u, s')) (hu : isLayoutKind u.kind = false) : Takes l u s s' := by
  obtain ⟨hs', -, hmem, -⟩ := Reads.anyToken t hs h
  have hstop := Lexed.inside_stop hmem hu
  obtain ⟨rest, last⟩ := s
  cases rest with
  | nil => cases h
  | cons v r =>
    unfold token at h
    dsimp only at h
    split at h
    next =>
      cases h
      cases hs.runs with
      | cons _ hle _ =>
        have hstart := Lexed.inside_start hmem hstop hle
        exact ⟨rfl, rfl, ⟨hs', hstart, hstop, Lexed.start_lt_stop hmem hu⟩⟩
    next => cases h

namespace Reads

/-- A token that is written with something is taken. -/
theorem token {t : Token → Bool} (ht : Solid t) :
    Reads l (Advances l) (Parser.token t) fun u => u ∈ l.tokens ∧ t u = true := by
  intro s hs u s' heq
  obtain ⟨hs', -, hmem, hu⟩ := anyToken t hs heq
  exact ⟨hs', (takes_of_token hs heq (ht hu)).advances, hmem, hu⟩

theorem sign (t : String) : Reads l (Advances l) (sign t) fun _ => True :=
  (token (solid_isSign t)).then fun _ _ => .pure trivial

theorem word (t : String) : Reads l (Advances l) (word t) fun _ => True :=
  (token (solid_isWord t)).then fun _ _ => .pure trivial

theorem oneSign (signs : List String) : Reads l (Advances l) (oneSign signs) fun _ => True :=
  (token (solid_any_isSign signs)).then fun _ _ => .pure trivial

theorem identifier : Reads l (Advances l) identifier fun _ => True :=
  (token solid_isIdentifier).then fun _ _ => .pure trivial

theorem ofKind {k : TokenKind} (hk : isLayoutKind k = false) :
    Reads l (Advances l) (ofKind k) fun _ => True := (token (solid_kind hk)).ignore

/-- A token of layout is taken. -/
theorem layout (k : TokenKind) : Reads l Anywhere (Parser.ofKind k) fun _ => True :=
  (anyToken _).ignore

/-! ## Commas -/

theorem commaSeparated (h : Reads l (Follows l) p P) :
    Reads l (Follows l) (commaSeparated p) fun xs => ∀ x ∈ xs, P x := by
  have hmore : Reads l (Follows l) (Parser.sign "," *> p) P := (sign ",").after h
  refine h.bind fun x hx => hmore.many.finish fun xs hxs => ?_
  exact List.forall_mem_cons.2 ⟨hx, hxs⟩

theorem commaTerminated (h : Reads l (Follows l) p P) :
    Reads l (Follows l) (commaTerminated p) fun r => ∀ x ∈ r.1, P x := by
  refine h.commaSeparated.bind fun xs hxs => (signNext ",").bind fun trailing _ => .ite ?_ ?_
  · exact (sign ",").finish fun _ _ => hxs
  · exact .pure hxs

/-! ## Nodes -/

theorem closeAt [Std.Refl T] {start : Position} {form : Form} {parts : List Node}
    (h : ∀ n ∈ parts, l.Holds n) : Reads l T (closeAt start form parts) l.Holds :=
  lastEnd.bind fun _ _ => .pure (Lexed.holds_compound h)

theorem compound [Trans T T T] [Std.Refl T] {form : Form} {p : Parser (List Node)}
    (h : Reads l T p fun ns => ∀ n ∈ ns, l.Holds n) : Reads l T (compound form p) l.Holds :=
  here.bind fun _ _ => h.bind fun _ hparts => closeAt hparts

theorem chain {p : Parser Node} {operator : Parser Unit}
    (hoperator : Reads l (Follows l) operator fun _ => True) (hp : Reads l (Follows l) p l.Holds) :
    Reads l (Follows l) (chain operator p) l.Holds := by
  refine here.bind fun start _ => hp.bind fun first hfirst => ?_
  refine (hoperator.after hp).many.bind fun more hmore => ?_
  cases more with
  | nil => exact .pure hfirst
  | cons n more => exact .closeAt (List.forall_mem_cons.2 ⟨hfirst, hmore⟩)

theorem tupled {p : Parser Node} (h : Reads l (Follows l) p l.Holds) :
    Reads l (Follows l) (tupled p) l.Holds := by
  refine here.bind fun start _ => h.commaTerminated.bind fun (items, trailing) hitems => ?_
  match items, trailing with
  | [n], false => exact .pure (hitems n (List.mem_singleton_self n))
  | [], _ => exact .closeAt hitems
  | [n], true => exact .closeAt hitems
  | n :: n' :: more, _ => exact .closeAt hitems

end Reads

end Parser

end TextDomain
