import TextDomain.Proofs.Grammar.Reading

/-!
# What a parser owes to the tokens it takes

A string literal is read from string tokens, and a token that has been taken does not come
back. To see that no literal gets into a tree twice, look at one position. A token that it lies
in is worth one literal, and a node costs as many as it has literals that begin there. A parser
`Pays` if the cost of its result is covered by the tokens that it takes, and by the cost of
what it is given.

Costs add up in sequence, so that a rule of the grammar pays if every part that it reads comes
into its result once at most.

## Main results

* `Pays.next`, `Pays.skip` — parsers in sequence.
* `Pays.many`, `Pays.extend`, `Pays.tupled` — repetition.
-/

namespace TextDomain

open Token (Lexed)

/-! ## Costs -/

/-- What the elements of a list cost together. -/
def tally {α : Type} (m : α → Nat) (xs : List α) : Nat := xs.foldr (fun x n => m x + n) 0

@[simp] theorem tally_nil {α : Type} (m : α → Nat) : tally m [] = 0 := rfl

@[simp] theorem tally_cons {α : Type} (m : α → Nat) (x : α) (xs : List α) :
    tally m (x :: xs) = m x + tally m xs := rfl

section Tally

variable {α : Type} {m : α → Nat} {x y : α} {xs : List α}

theorem le_tally (hx : x ∈ xs) : m x ≤ tally m xs := by
  induction xs with
  | nil => cases hx
  | cons z xs ih =>
    rw [tally_cons]
    rcases List.mem_cons.1 hx with rfl | hx
    · exact Nat.le_add_right ..
    · exact (ih hx).trans (Nat.le_add_left ..)

@[simp] theorem tally_append (xs ys : List α) : tally m (xs ++ ys) = tally m xs + tally m ys := by
  induction xs with
  | nil => rw [List.nil_append, tally_nil, Nat.zero_add]
  | cons x xs ih => rw [List.cons_append, tally_cons, tally_cons, ih, Nat.add_assoc]

/-- If elements cost one together, no two of them cost anything. -/
theorem index_unique (h : tally m xs ≤ 1) {i j : Nat} (hi : xs[i]? = some x)
    (hj : xs[j]? = some y) (hx : m x ≠ 0) (hy : m y ≠ 0) : i = j := by
  induction xs generalizing i j with
  | nil => cases hi
  | cons z xs ih =>
    rw [tally_cons] at h
    cases i with
    | zero =>
      cases j with
      | zero => rfl
      | succ j =>
        obtain rfl := Option.some.inj hi
        have hle : m y ≤ tally m xs := le_tally (List.mem_of_getElem? (l := xs) hj)
        omega
    | succ i =>
      cases j with
      | zero =>
        obtain rfl := Option.some.inj hj
        have hle : m x ≤ tally m xs := le_tally (List.mem_of_getElem? (l := xs) hi)
        omega
      | succ j => rw [ih (by omega) hi hj]

theorem tally_eq_zero (h : ∀ x ∈ xs, m x = 0) :
    tally m xs = 0 := by
  induction xs with
  | nil => rfl
  | cons x xs ih =>
    obtain ⟨hx, hxs⟩ := List.forall_mem_cons.1 h
    rw [tally_cons, hx, ih hxs]

/-- If one element at most costs something, and that one, so do all together. -/
theorem tally_le_one (h : ∀ x ∈ xs, m x ≤ 1)
    (hone : xs.Pairwise fun x y => m x = 0 ∨ m y = 0) : tally m xs ≤ 1 := by
  induction hone with
  | nil => exact Nat.zero_le 1
  | @cons x xs hx _ ih =>
    obtain ⟨hle, hles⟩ := List.forall_mem_cons.1 h
    rw [tally_cons]
    rcases Nat.eq_zero_or_pos (m x) with hzero | hpos
    · rw [hzero, Nat.zero_add]
      exact ih hles
    · rw [tally_eq_zero fun y hy => (hx y hy).resolve_left hpos.ne']
      exact hle

end Tally

namespace Node

mutual

/-- How many string literals of a tree begin at a position. -/
def literalsAt (q : Position) : Node → Nat
  | .name .. => 0
  | .literal e _ => if e.start = q then 1 else 0
  | .call _ callee arguments keywords =>
    literalsAt q callee + literalsAtOf q arguments + literalsAtOf q keywords
  | .compound _ _ parts => literalsAtOf q parts

/-- How many string literals of several trees begin at a position. -/
def literalsAtOf (q : Position) : List Node → Nat
  | [] => 0
  | n :: rest => literalsAt q n + literalsAtOf q rest

end

variable {q : Position}

@[simp] theorem literalsAtOf_nil : literalsAtOf q [] = 0 := rfl

@[simp] theorem literalsAtOf_cons (n : Node) (ns : List Node) :
    literalsAtOf q (n :: ns) = literalsAt q n + literalsAtOf q ns := rfl

@[simp] theorem tally_literalsAt (ns : List Node) :
    tally (literalsAt q) ns = literalsAtOf q ns := by
  induction ns with
  | nil => rfl
  | cons n ns ih => rw [tally_cons, literalsAtOf_cons, ih]

@[simp] theorem literalsAtOf_append (ns ns' : List Node) :
    literalsAtOf q (ns ++ ns') = literalsAtOf q ns + literalsAtOf q ns' := by
  induction ns with
  | nil => rw [List.nil_append, literalsAtOf_nil, Nat.zero_add]
  | cons n ns ih => rw [List.cons_append, literalsAtOf_cons, literalsAtOf_cons, ih, Nat.add_assoc]

@[simp] theorem literalsAtOf_reverse (ns : List Node) :
    literalsAtOf q ns.reverse = literalsAtOf q ns := by
  induction ns with
  | nil => rfl
  | cons n ns ih => simp [ih, Nat.add_comm]

@[simp] theorem literalsAtOf_flatten (nss : List (List Node)) :
    literalsAtOf q nss.flatten = tally (literalsAtOf q) nss := by
  induction nss with
  | nil => rfl
  | cons ns nss ih => simp [ih]

theorem literalsAtOf_flatMap {α : Type} (f : α → List Node) (xs : List α) :
    literalsAtOf q (xs.flatMap f) = tally (fun x => literalsAtOf q (f x)) xs := by
  induction xs with
  | nil => rfl
  | cons x xs ih => rw [List.flatMap_cons, literalsAtOf_append, tally_cons, ih]

@[simp] theorem literalsAt_compound (e : Extent) (form : Form) (parts : List Node) :
    literalsAt q (.compound e form parts) = literalsAtOf q parts := rfl

@[simp] theorem literalsAt_name (e : Extent) (id : Text) : literalsAt q (.name e id) = 0 := rfl

@[simp] theorem literalsAt_call (e : Extent) (callee : Node) (arguments keywords : List Node) :
    literalsAt q (.call e callee arguments keywords) =
      literalsAt q callee + literalsAtOf q arguments + literalsAtOf q keywords := rfl

end Node

namespace Token

/-- The position lies in a string token. -/
def Spans (q : Position) (t : Token) : Prop :=
  t.kind = .string ∧ t.extent.start ≤ q ∧ q < t.extent.stop

instance (q : Position) (t : Token) : Decidable (t.Spans q) :=
  inferInstanceAs (Decidable (_ ∧ _ ∧ _))

/-- A string token that the position lies in is worth one literal. -/
def worth (q : Position) (t : Token) : Nat := if t.Spans q then 1 else 0

/-- What tokens are worth together. -/
def credit (q : Position) (ts : List Token) : Nat := tally (worth q) ts

end Token

open Token (credit worth)

namespace Parser

variable {α β : Type} {l : Lexed} {q : Position} {k k' : Nat} {p : Parser α} {m m' : α → Nat}
  {r : β → Nat}

/-- The result costs no more than what was there before and what the tokens are worth that are
taken. -/
def Pays (l : Lexed) (q : Position) (k : Nat) (p : Parser α) (m : α → Nat) : Prop :=
  ∀ ⦃s : TokenStream⦄, s.Of l → ∀ ⦃x s'⦄, p s = some (x, s') →
    s'.Of l ∧ m x + credit q s'.rest ≤ k + credit q s.rest

/-- A parser whose result costs nothing. -/
abbrev Free (l : Lexed) (q : Position) (p : Parser α) : Prop := Pays l q 0 p fun _ => 0

namespace Pays

theorem mono (h : Pays l q k p m) (hm : ∀ x, m' x ≤ m x) : Pays l q k p m' := by
  intro s hs x s' heq
  obtain ⟨hs', hle⟩ := h hs heq
  exact ⟨hs', (Nat.add_le_add_right (hm x) _).trans hle⟩

theorem of_le (h : Pays l q k p m) (hk : k ≤ k') : Pays l q k' p m := by
  intro s hs x s' heq
  obtain ⟨hs', hle⟩ := h hs heq
  exact ⟨hs', hle.trans (Nat.add_le_add_right hk _)⟩

/-- What was there before may be left as it is. -/
theorem frame (h : Pays l q 0 p m) (k : Nat) : Pays l q k p fun x => k + m x := by
  intro s hs x s' heq
  obtain ⟨hs', hle⟩ := h hs heq
  refine ⟨hs', ?_⟩
  dsimp only
  omega

/-- So may what is owed to something else. -/
theorem beside (h : Pays l q k p m) (j : Nat) : Pays l q (j + k) p fun x => j + m x := by
  intro s hs x s' heq
  obtain ⟨hs', hle⟩ := h hs heq
  refine ⟨hs', ?_⟩
  dsimp only
  omega

/-! ## Sequence -/

theorem pure {x : α} (h : m x ≤ k) : Pays l q k (pure x : Parser α) m := by
  intro s hs y s' heq
  obtain ⟨rfl, rfl⟩ := of_pure_eq_some heq
  exact ⟨hs, Nat.add_le_add_right h _⟩

theorem bind {f : α → Parser β} (hp : Pays l q k p m) (hf : ∀ x, Pays l q (m x) (f x) r) :
    Pays l q k (p >>= f) r := by
  intro s hs y s' heq
  obtain ⟨x, s₁, hx, hy⟩ := of_bind_eq_some heq
  obtain ⟨hs₁, hle⟩ := hp hs hx
  obtain ⟨hs', hle'⟩ := hf x hs₁ hy
  exact ⟨hs', hle'.trans hle⟩

/-- A parser and then another one, which may use the result of the first. -/
theorem next {f : α → Parser β} (hp : Pays l q 0 p m) (hf : ∀ x, Pays l q (k + m x) (f x) r) :
    Pays l q k (p >>= f) r :=
  (hp.frame k).bind hf

/-- A parser whose result costs nothing, and then another one. -/
theorem skip {f : α → Parser β} (hp : Free l q p) (hf : ∀ x, Pays l q k (f x) r) :
    Pays l q k (p >>= f) r :=
  hp.next hf

theorem after {p' : Parser β} (hp : Free l q p) (hp' : Pays l q k p' r) :
    Pays l q k (p *> p') r :=
  hp.skip fun _ => hp'

/-- The result is made into another one. -/
theorem finish {f : α → β} (hp : Pays l q 0 p m) (hf : ∀ x, r (f x) ≤ k + m x) :
    Pays l q k (p >>= fun x => Pure.pure (f x)) r :=
  hp.next fun x => .pure (hf x)

theorem map {f : α → β} (hp : Pays l q 0 p m) (hf : ∀ x, r (f x) ≤ k + m x) :
    Pays l q k (f <$> p) r := hp.finish hf

/-- The result is not used. -/
theorem ignore (h : Pays l q k p m) : Pays l q k p fun _ => 0 := h.mono fun _ => Nat.zero_le _

/-! ## Choice -/

theorem failure : Pays l q k (failure : Parser α) m := by
  intro s _ x s' heq
  cases heq

theorem ite {c : Bool} {p₁ p₂ : Parser α} (h₁ : Pays l q k p₁ m) (h₂ : Pays l q k p₂ m) :
    Pays l q k (if c = true then p₁ else p₂) m := by
  cases c with
  | true => exact h₁
  | false => exact h₂

/-- A test and then one of two parsers. -/
theorem branch {t : Parser Bool} {p₁ p₂ : Parser α} (ht : Free l q t) (h₁ : Pays l q k p₁ m)
    (h₂ : Pays l q k p₂ m) : Pays l q k (t >>= fun c => if c = true then p₁ else p₂) m :=
  ht.skip fun _ => .ite h₁ h₂

theorem orElse {p' : Parser α} (h : Pays l q k p m) (h' : Pays l q k p' m) :
    Pays l q k (p <|> p') m := by
  intro s hs x s' heq
  have heq : (p s <|> p' s) = some (x, s') := heq
  cases hp : p s with
  | none =>
    rw [hp] at heq
    exact h' hs heq
  | some y =>
    rw [hp] at heq
    cases heq
    exact h hs hp

theorem optional (h : Pays l q 0 p m) :
    Pays l q 0 (optional? p) fun o => tally m o.toList := by
  intro s hs o s' heq
  unfold optional? at heq
  split at heq
  next x s₁ hp =>
    cases heq
    obtain ⟨hs', hle⟩ := h hs hp
    exact ⟨hs', by simpa using hle⟩
  next =>
    cases heq
    exact ⟨hs, by simp⟩

/-! ## Repetition -/

theorem many (h : Pays l q 0 p m) : Pays l q 0 (many p) (tally m) := by
  have hclock : ∀ (clock : List Token) {s : TokenStream}, s.Of l →
      (manyWithin p clock s).2.Of l ∧
        tally m (manyWithin p clock s).1 + credit q (manyWithin p clock s).2.rest ≤
          credit q s.rest := by
    intro clock
    induction clock with
    | nil => exact fun hs => ⟨hs, by simp [manyWithin]⟩
    | cons _ clock ih =>
      intro s hs
      rw [manyWithin]
      split
      next => exact ⟨hs, by simp⟩
      next x s₁ hp =>
        obtain ⟨hs₁, hle⟩ := h hs hp
        obtain ⟨hs', hle'⟩ := ih hs₁
        exact ⟨hs', by dsimp only [tally_cons]; omega⟩
  intro s hs xs s' heq
  obtain ⟨rfl, rfl⟩ := Prod.mk.inj (Option.some.inj heq)
  obtain ⟨hs', hle⟩ := hclock s.rest hs
  exact ⟨hs', by omega⟩

theorem many₁ (h : Pays l q 0 p m) : Pays l q 0 (many₁ p) (tally m) :=
  h.next fun _ => h.many.finish fun _ => by simp

theorem extend {f : α → Parser α} (h : ∀ x, Pays l q (m x) (f x) m) (x : α) :
    Pays l q (m x) (extend f x) m := by
  intro s hs y s' heq
  exact of_extend_eq_some
    (I := fun y s' => s'.Of l ∧ m y + credit q s'.rest ≤ m x + credit q s.rest)
    (fun y s₁ z s₂ ⟨hs₁, hle⟩ hf => by
      obtain ⟨hs₂, hle'⟩ := h y hs₁ hf
      exact ⟨hs₂, hle'.trans hle⟩) ⟨hs, Nat.le_refl _⟩ heq

/-- What is made of several things may cost what is made of each of them. -/
theorem mapM {f : α → Parser β} {xs : List α} (h : ∀ x ∈ xs, Pays l q (m x) (f x) r) :
    Pays l q (tally m xs) (xs.mapM f) (tally r) := by
  induction xs with
  | nil =>
    rw [List.mapM_nil]
    exact .pure (by simp)
  | cons x xs ih =>
    rw [List.mapM_cons, tally_cons, Nat.add_comm]
    have hrest := ih fun y hy => h y (List.mem_cons_of_mem x hy)
    refine ((h x (List.mem_cons_self ..)).beside _).bind fun y => ?_
    rw [Nat.add_comm]
    exact (hrest.beside (r y)).bind fun ys => .pure (by simp)

/-! ## Tests -/

/-- What only looks at the stream costs nothing. -/
theorem look (f : TokenStream → α) : Free l q (fun s => some (f s, s) : Parser α) := by
  intro s hs x s' heq
  cases heq
  exact ⟨hs, by simp⟩

theorem peek : Free l q peek := look _

theorem here : Free l q here := look _

theorem lastEnd : Free l q lastEnd := look _

theorem nextIs (t : Token → Bool) : Free l q (nextIs t) := look _

theorem signNext (t : String) : Free l q (signNext t) := nextIs _

theorem wordNext (t : String) : Free l q (wordNext t) := nextIs _

theorem nameThenSign (t : String) : Free l q (nameThenSign t) := by
  have hpeek : Free l q peek₂ := look _
  refine hpeek.skip fun next => ?_
  split
  · exact .pure (Nat.le_refl _)
  · exact .pure (Nat.le_refl _)

theorem check (b : Bool) : Free l q (check b) := by
  cases b with
  | true => exact .pure (Nat.le_refl _)
  | false => exact .failure

theorem ofOption (o : Option α) : Free l q (o : Parser α) := by
  cases o with
  | none => exact .failure
  | some x => exact .pure (Nat.le_refl _)

/-- What is there, and then a parser that uses it. -/
theorem given {o : Option α} {f : α → Parser β} (h : ∀ x, o = some x → Pays l q k (f x) r) :
    Pays l q k ((o : Parser α) >>= f) r := by
  cases o with
  | none => exact .failure
  | some x => exact h x rfl

/-- A choice by the next token. -/
theorem dispatch {f : Token → Parser α} (h : ∀ t, Pays l q k (f t) m) :
    Pays l q k (Parser.peek >>= fun next => match next with
      | none => Alternative.failure
      | some t => f t) m := by
  refine peek.skip fun next => ?_
  cases next with
  | none => exact .failure
  | some t => exact h t

/-! ## Tokens -/

/-- A token costs what it is worth. -/
theorem token (t : Token → Bool) : Pays l q 0 (Parser.token t) (worth q) := by
  intro s hs u s' heq
  refine ⟨(Reads.anyToken t hs heq).1, ?_⟩
  obtain ⟨rest, last⟩ := s
  cases rest with
  | nil => cases heq
  | cons v rest =>
    unfold Parser.token at heq
    dsimp only at heq
    split at heq
    next =>
      cases heq
      rw [Nat.zero_add]
      exact Nat.le_refl _
    next => cases heq

theorem anyToken (t : Token → Bool) : Free l q (Parser.token t) :=
  (token t).mono fun _ => Nat.zero_le _

theorem sign (t : String) : Free l q (sign t) := (anyToken _).skip fun _ => .pure (Nat.le_refl _)

theorem word (t : String) : Free l q (word t) := (anyToken _).skip fun _ => .pure (Nat.le_refl _)

theorem oneSign (signs : List String) : Free l q (oneSign signs) :=
  (anyToken _).skip fun _ => .pure (Nat.le_refl _)

theorem identifier : Free l q identifier := (anyToken _).skip fun _ => .pure (Nat.le_refl _)

theorem ofKind (kind : TokenKind) : Free l q (ofKind kind) := anyToken _

/-! ## Commas -/

theorem commaSeparated (h : Pays l q 0 p m) :
    Pays l q 0 (commaSeparated p) (tally m) :=
  h.next fun _ => ((sign ",").after h).many.finish fun _ => by simp

theorem commaTerminated (h : Pays l q 0 p m) :
    Pays l q 0 (commaTerminated p) fun r => tally m r.1 := by
  refine h.commaSeparated.next fun xs => (signNext ",").skip fun trailing => .ite ?_ ?_
  · exact (sign ",").finish fun _ => by simp
  · exact .pure (by simp)

/-! ## Nodes -/

theorem closeAt {start : Position} {form : Form} {parts : List Node}
    (h : Node.literalsAtOf q parts ≤ k) :
    Pays l q k (closeAt start form parts) (Node.literalsAt q) :=
  lastEnd.finish fun _ => h

theorem compound {form : Form} {p : Parser (List Node)}
    (h : Pays l q 0 p (Node.literalsAtOf q)) : Pays l q 0 (compound form p) (Node.literalsAt q) :=
  here.skip fun _ => h.next fun _ => closeAt (by simp)

theorem chain {p : Parser Node} {operator : Parser Unit} (hoperator : Free l q operator)
    (hp : Pays l q 0 p (Node.literalsAt q)) :
    Pays l q 0 (chain operator p) (Node.literalsAt q) := by
  refine here.skip fun start => hp.next fun first => ?_
  refine (hoperator.after hp).many.next fun more => ?_
  cases more with
  | nil => exact .pure (by simp)
  | cons n more => exact .closeAt (by simp)

theorem tupled {p : Parser Node} (h : Pays l q 0 p (Node.literalsAt q)) :
    Pays l q 0 (tupled p) (Node.literalsAt q) := by
  refine here.skip fun start => h.commaTerminated.next fun (items, trailing) => ?_
  rcases items with _ | ⟨n, _ | ⟨n', more⟩⟩
  · exact .closeAt (by simp)
  · cases trailing with
    | false => exact .pure (by simp)
    | true => exact .closeAt (by simp)
  · exact .closeAt (by simp)

end Pays

end Parser

end TextDomain
