import TextDomain.Proofs.Rewriting.Parser

/-!
# Tokens that are read alike

What a rule of the grammar asks of the next tokens it asks of how they are spelled, and
never of a string. So its tests come out alike on the two streams, and the tokens that
it takes correspond. Strings are taken in whole runs, elsewhere.

## Main results

* `Agrees.token`, `Agrees.sign` — a token that is no string is taken from both streams.
* `Agrees.dispatch` — a choice by the next token is the same on both streams.
* `Agrees.compound`, `Agrees.chain`, `Agrees.tupled` — the usual ways to make nodes.
-/

namespace TextDomain

namespace Rewriting

variable {w : Rewriting}

/-- The tokens are of one kind, and spelled alike unless they are strings. -/
structure Alike (t t' : Token) : Prop where
  kind : t.kind = t'.kind
  text : t.kind ≠ .string → t.text = t'.text

variable (w) in
/-- What comes next in the two streams. -/
inductive NextMaps : List Token → List Token → Prop where
  /-- Nothing. -/
  | nil : NextMaps [] []
  /-- A token other than a string. -/
  | other {t t' : Token} {ts ts' : List Token} (kind : t.kind ≠ .string)
      (token : w.TokenMaps t t') (rest : w.TokensMap ts ts') : NextMaps (t :: ts) (t' :: ts')
  /-- A string. -/
  | string {t t' : Token} {ts ts' : List Token} (kind : t.kind = .string)
      (kind' : t'.kind = .string) (start : w.Maps t.extent.start t'.extent.start) :
      NextMaps (t :: ts) (t' :: ts')

theorem RunMaps.start {t t' : Token} {r r' : List Token} (h : w.RunMaps (t :: r) (t' :: r')) :
    w.Maps t.extent.start t'.extent.start := by
  cases h with
  | kept before => exact .inl ⟨(before t (List.mem_cons_self ..)).1.le, rfl⟩
  | moved behind => exact .inr ⟨(behind t (List.mem_cons_self ..)).1, rfl⟩
  | rewritten start _ _ _ extent =>
    have hstart : t.extent.start = w.start := Option.some.inj start
    rw [hstart, extent]
    exact .inl ⟨le_refl w.start, rfl⟩

theorem TokensMap.next {ts ts' : List Token} (h : w.TokensMap ts ts') : w.NextMaps ts ts' := by
  cases h with
  | nil => exact .nil
  | other kind token rest => exact .other kind token rest
  | @run r r' _ _ strings strings' ne_nil ne_nil' _ _ maps =>
    cases r with
    | nil => exact absurd rfl ne_nil
    | cons t r =>
      cases r' with
      | nil => exact absurd rfl ne_nil'
      | cons t' r' =>
        exact .string (strings t (List.mem_cons_self ..)) (strings' t' (List.mem_cons_self ..))
          maps.start

theorem TokensMap.eq_nil_iff {ts ts' : List Token} (h : w.TokensMap ts ts') :
    ts = [] ↔ ts' = [] := by
  cases h.next <;> simp

theorem TokenMaps.alike {t t' : Token} (h : w.TokenMaps t t') : Alike t t' :=
  ⟨h.kind, fun _ => h.text⟩

theorem NextMaps.head {ts ts' : List Token} (h : w.NextMaps ts ts') :
    Option.Rel Alike ts.head? ts'.head? := by
  cases h with
  | nil => exact .none
  | other _ token _ => exact .some token.alike
  | string kind kind' _ => exact .some ⟨kind.trans kind'.symm, fun hne => absurd kind hne⟩

end Rewriting

namespace Parser

open Rewriting (Alike)

/-! ## Tests -/

/-- A test that looks at how a token is spelled, and that no string passes. -/
structure Spelled (p : Token → Bool) : Prop where
  same : ∀ ⦃t t' : Token⦄, Alike t t' → p t = p t'
  not_string : ∀ ⦃t : Token⦄, p t = true → t.kind ≠ .string

theorem spelled_spelling {k : TokenKind} (hk : k ≠ .string) (f : Text → Bool) :
    Spelled fun u => u.kind == k && f u.text where
  same := by
    intro t t' h
    by_cases hkind : t.kind = .string
    · have hkind' : t'.kind = .string := h.kind ▸ hkind
      have hne : (TokenKind.string == k) = false := beq_false_of_ne hk.symm
      simp only [hkind, hkind', hne, Bool.false_and]
    · rw [h.kind, h.text hkind]
  not_string := by
    intro t h
    rw [eq_of_beq (Bool.and_eq_true_iff.1 h).1]
    exact hk

theorem spelled_isSign (s : String) : Spelled (isSign · s) :=
  spelled_spelling (k := .sign) (by decide) (· == s.toList)

theorem spelled_isWord (s : String) : Spelled (isWord · s) :=
  spelled_spelling (k := .name) (by decide) (· == s.toList)

theorem spelled_isIdentifier : Spelled isIdentifier :=
  spelled_spelling (k := .name) (by decide) (!keywords.contains ·)

theorem spelled_kind {k : TokenKind} (hk : k ≠ .string) : Spelled (·.kind == k) where
  same := fun _ _ h => by rw [h.kind]
  not_string := fun _ h => by rw [eq_of_beq h]; exact hk

theorem Spelled.or {p p' : Token → Bool} (h : Spelled p) (h' : Spelled p') :
    Spelled fun u => p u || p' u where
  same := fun _ _ halike => by rw [h.same halike, h'.same halike]
  not_string := fun _ hu => (Bool.or_eq_true_iff.1 hu).elim (fun hu => h.not_string hu)
    fun hu => h'.not_string hu

theorem Spelled.and_not {p p' : Token → Bool} (h : Spelled p) (h' : Spelled p') :
    Spelled fun u => p u && !p' u where
  same := fun _ _ halike => by rw [h.same halike, h'.same halike]
  not_string := fun _ hu => h.not_string (Bool.and_eq_true_iff.1 hu).1

theorem spelled_any_isSign (signs : List String) : Spelled fun u => signs.any (isSign u) where
  same := by
    intro t t' h
    have hsame : isSign t = isSign t' := funext fun s => (spelled_isSign s).same h
    rw [hsame]
  not_string := by
    intro t h
    obtain ⟨s, -, hs⟩ := List.any_eq_true.1 h
    exact (spelled_isSign s).not_string hs

variable {α β γ : Type} {w : Rewriting} {n k : Nat} {V : α → β → Prop}

namespace Agrees

theorem peek : Agrees w n 0 (Option.Rel Alike) peek peek :=
  fun s s' hs _ _ => .read hs.tokens.next.head hs (.refl s) (.refl s')

theorem here : Agrees w n 0 w.Maps here here := by
  intro s s' hs _ _
  refine .read ?_ hs (.refl s) (.refl s')
  have hnext := hs.tokens.next
  have hlast := hs.last
  obtain ⟨rest, last⟩ := s
  obtain ⟨rest', last'⟩ := s'
  cases hnext with
  | nil => exact hlast
  | other _ token _ => exact token.start
  | string _ _ start => exact start

theorem lastEnd : Agrees w n 0 w.Maps lastEnd lastEnd :=
  fun s s' hs _ _ => .read hs.last hs (.refl s) (.refl s')

theorem nextIs {p : Token → Bool} (hp : ∀ ⦃t t' : Token⦄, Alike t t' → p t = p t') :
    Agrees w n 0 Eq (nextIs p) (nextIs p) := by
  refine peek.finish fun t? t?' h => ?_
  cases h with
  | none => rfl
  | some h => exact hp h

theorem signNext (s : String) : Agrees w n 0 Eq (signNext s) (signNext s) :=
  nextIs (spelled_isSign s).same

theorem wordNext (s : String) : Agrees w n 0 Eq (wordNext s) (wordNext s) :=
  nextIs (spelled_isWord s).same

/-- A name is no string, so behind it the streams correspond token by token. -/
theorem nameThenSign (s : String) : Agrees w n 0 Eq (nameThenSign s) (nameThenSign s) := by
  intro s₀ s₀' hs _ _
  have hnext := hs.tokens.next
  obtain ⟨rest, last⟩ := s₀
  obtain ⟨rest', last'⟩ := s₀'
  cases hnext with
  | nil => exact .read rfl hs (.refl _) (.refl _)
  | @other t t' ts ts' kind token rest =>
    have hfirst := spelled_isIdentifier.same token.alike
    cases rest.next with
    | nil => exact .read rfl hs (.refl _) (.refl _)
    | other _ token' _ =>
      refine .read ?_ hs (.refl _) (.refl _)
      show (_ && _) = (_ && _)
      rw [hfirst, (spelled_isSign s).same token'.alike]
    | string kind kind' _ =>
      refine .read ?_ hs (.refl _) (.refl _)
      show (_ && _) = (_ && _)
      rw [hfirst, (spelled_isSign s).same ⟨kind.trans kind'.symm, fun hne => absurd kind hne⟩]
  | @string t t' ts ts' kind kind' start =>
    have hfalse : ∀ (u : Token) (us : List Token) (last : Position), u.kind = .string →
        Parser.nameThenSign s ⟨u :: us, last⟩ = some (false, ⟨u :: us, last⟩) := by
      intro u us last hu
      have hnot : isIdentifier u = false :=
        Bool.eq_false_iff.2 fun h => spelled_isIdentifier.not_string h hu
      cases us with
      | nil => rfl
      | cons v us =>
        show some (isIdentifier u && isSign v s, _) = _
        rw [hnot, Bool.false_and]
    rw [hfalse _ _ _ kind, hfalse _ _ _ kind']
    exact .read rfl hs (.refl _) (.refl _)

theorem check {b b' : Bool} (h : b = b') :
    Agrees w n 0 (fun _ _ => b = true) (check b) (check b') := by
  subst h
  cases b with
  | true => exact .pure rfl
  | false => exact .failure

/-- A choice by the next token. -/
theorem dispatch {f : Token → Parser α} {f' : Token → Parser β}
    (h : ∀ t t', Alike t t' → Agrees w n k V (f t) (f' t')) :
    Agrees w n k V
      (Parser.peek >>= fun next => match next with
        | none => Alternative.failure
        | some t => f t)
      (Parser.peek >>= fun next => match next with
        | none => Alternative.failure
        | some t => f' t) := by
  refine peek.bind fun t? t?' ht => ?_
  cases ht with
  | none => exact .failure
  | some ht => exact h _ _ ht

/-! ## Taking tokens -/

/-- A token that is no string is taken from both streams. -/
theorem token {p : Token → Bool} (hp : Spelled p) :
    Agrees w n 1 w.TokenMaps (token p) (token p) := by
  intro s s' hs _ _
  have hnext := hs.tokens.next
  obtain ⟨rest, last⟩ := s
  obtain ⟨rest', last'⟩ := s'
  cases hnext with
  | nil => exact .failed
  | @other t t' ts ts' _ token rest =>
    have hleaves : ∀ (u : Token) (us : List Token) (p q : Position),
        Rewriting.Leaves 1 ⟨us, p⟩ ⟨u :: us, q⟩ :=
      fun u us _ _ => ⟨List.suffix_cons u us, Nat.le_refl _⟩
    simp only [Parser.token, ← hp.same token.alike]
    cases p t with
    | true => exact .read token ⟨rest, token.stop⟩ (hleaves ..) (hleaves ..)
    | false => exact .failed
  | @string t t' ts ts' kind kind' _ =>
    have hnot : ∀ {u : Token}, u.kind = .string → p u = false := fun {u} hu =>
      Bool.eq_false_iff.2 fun h => hp.not_string h hu
    simp only [Parser.token, hnot kind, hnot kind']
    exact .failed

theorem sign (s : String) : Agrees w n 1 Eq (sign s) (sign s) :=
  (token (spelled_isSign s)).map fun _ _ _ => rfl

theorem word (s : String) : Agrees w n 1 Eq (word s) (word s) :=
  (token (spelled_isWord s)).map fun _ _ _ => rfl

theorem oneSign (signs : List String) : Agrees w n 1 Eq (oneSign signs) (oneSign signs) :=
  (token (spelled_any_isSign signs)).map fun _ _ _ => rfl

theorem identifier : Agrees w n 1 Eq identifier identifier :=
  (token spelled_isIdentifier).map fun _ _ h => by rw [h.text]

theorem ofKind {k : TokenKind} (hk : k ≠ .string) :
    Agrees w n 1 w.TokenMaps (ofKind k) (ofKind k) := token (spelled_kind hk)

/-! ## Nodes -/

theorem closeAt {start start' : Position} (hstart : w.Maps start start') (form : Form)
    {ns ns' : List Node} (h : List.Forall₂ w.NodeMaps ns ns') :
    Agrees w n 0 w.NodeMaps (closeAt start form ns) (closeAt start' form ns') :=
  lastEnd.finish fun _ _ hstop => Rewriting.nodeMaps_compound ⟨hstart, hstop⟩ form h

theorem compound (form : Form) {p q : Parser (List Node)}
    (h : Agrees w n k (List.Forall₂ w.NodeMaps) p q) :
    Agrees w n k w.NodeMaps (compound form p) (compound form q) := by
  refine here.bind fun start start' hstart => ?_
  exact h.bind_of_le (j := 0) fun _ _ hparts _ _ => .closeAt hstart form hparts

theorem atom {p : Token → Bool} (hp : Spelled p) : Agrees w n 1 w.NodeMaps (atom p) (atom p) :=
  (token hp).map fun _ _ h => Rewriting.nodeMaps_compound ⟨h.start, h.stop⟩ .other .nil

theorem nameNode : Agrees w n 1 w.NodeMaps nameNode nameNode :=
  (token spelled_isIdentifier).map fun t t' h => by
    rw [h.text]
    exact Rewriting.nodeMaps_name ⟨h.start, h.stop⟩ _

/-- Operands and operators. -/
theorem chain {operator : Parser Unit} {p q : Parser Node}
    (hoperator : Agrees w n 1 Eq operator operator) (h : Agrees w n 1 w.NodeMaps p q) :
    Agrees w n 1 w.NodeMaps (chain operator p) (chain operator q) := by
  refine here.bind fun start start' hstart => h.next fun first first' hfirst => ?_
  refine (hoperator.after h).many.bind fun more more' hmore => ?_
  cases hmore with
  | nil => exact .pure hfirst
  | cons hn hmore => exact .closeAt hstart .other (.cons hfirst (.cons hn hmore))

/-! ## Commas -/

theorem commaSeparated {p : Parser α} {q : Parser β} (h : Agrees w n k V p q) :
    Agrees w n k (List.Forall₂ V) (commaSeparated p) (commaSeparated q) := by
  refine h.bind_of_le (j := 0) fun _ _ hx m hm => ?_
  have hmore := (sign ",").after (h.mono (Nat.le_refl k) (by omega : m ≤ n))
  exact hmore.many.finish fun _ _ hxs => .cons hx hxs

/-- Items of which the same follow each other, and the same comma behind them. -/
theorem commaTerminated {p : Parser α} {q : Parser β} (h : Agrees w n k V p q) :
    Agrees w n k (fun r r' => List.Forall₂ V r.1 r'.1 ∧ r.2 = r'.2) (commaTerminated p)
      (commaTerminated q) := by
  refine h.commaSeparated.bind_of_le (j := 0) fun _ _ hxs _ _ => ?_
  refine (signNext ",").bind fun trailing trailing' htrailing => .ite htrailing ?_ ?_
  · exact (sign ",").finish fun _ _ _ => ⟨hxs, htrailing⟩
  · exact .pure ⟨hxs, htrailing⟩

theorem tupled {p q : Parser Node} (h : Agrees w n k w.NodeMaps p q) :
    Agrees w n k w.NodeMaps (tupled p) (tupled q) := by
  refine here.bind fun start start' hstart => ?_
  refine h.commaTerminated.bind_of_le (j := 0)
    fun (items, trailing) (items', trailing') hr _ _ => ?_
  obtain ⟨hitems, rfl⟩ := hr
  match items, items', trailing, hitems with
  | [_], [_], false, .cons hn .nil => exact .pure hn
  | [], [], _, .nil => exact .closeAt hstart .tuple .nil
  | [_], [_], true, .cons hn .nil => exact .closeAt hstart .tuple (.cons hn .nil)
  | _ :: _ :: _, _ :: _ :: _, _, .cons hn (.cons hn' hmore) =>
    exact .closeAt hstart .tuple (.cons hn (.cons hn' hmore))

end Agrees

end Parser

end TextDomain
