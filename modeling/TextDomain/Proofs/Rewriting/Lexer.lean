import Mathlib.Data.List.TakeWhile
import TextDomain.Proofs.Rewriting.Lexeme
import TextDomain.Proofs.Rewriting.Motion
import TextDomain.Proofs.Source.Lexed

/-!
# Tokens in front of a literal

The lexer goes over what stands in front of a literal in the same way if the literal is
written anew: no step looks further than to its first character. At the literal it takes
the string tokens that this consists of, and behind it, it is in the state in which it would
be behind any other literal there.

## Main results

* `step?_swap` — a step in front of a literal does not depend on it.
-/

namespace TextDomain

/-- Two beginnings of a text that end at the same position are the same. -/
theorem Position.eq_of_after_eq {u v u' v' : Text} {p : Position} (h : u ++ v = u' ++ v')
    (hafter : p.after u = p.after u') : u = u' := by
  have hnil : ∀ {w x : Text}, p.after w = p.after (w ++ x) → x = [] := by
    intro w x hwx
    by_contra hne
    rw [Position.after_append] at hwx
    exact (Position.lt_after hne).ne hwx
  rcases List.append_eq_append_iff.1 h with ⟨x, rfl, -⟩ | ⟨x, rfl, -⟩
  · rw [hnil hafter, List.append_nil]
  · rw [hnil hafter.symm, List.append_nil]

/-! ## Cursors -/

namespace Cursor

variable {u t : Text} {p : Position}

theorem advance_append {n : Nat} (h : n ≤ u.length) :
    advance ⟨u ++ t, p⟩ n = ⟨u.drop n ++ t, p.after (u.take n)⟩ := by
  rw [advance, List.drop_append_of_le_length h, List.take_append_of_le_length h]

/-- What is left of a text shows how much of it has been passed over. -/
theorem advance_behind {blank v : Text} (hu : u = blank ++ v) (t : Text) :
    advance ⟨u ++ t, p⟩ ((u ++ t).length - (v ++ t).length) = ⟨v ++ t, p.after blank⟩ := by
  subst hu
  have hblank : (blank ++ v ++ t).length - (v ++ t).length = blank.length := by
    simp only [List.length_append]
    omega
  rw [hblank, List.append_assoc, advance, List.drop_left, List.take_left]

/-- Characters are passed over in front of one that is not. -/
theorem skipWhile_append {q : Char → Bool}
    (h : (∃ x ∈ u, q x = false) ∨ ∀ x ∈ t.head?, q x = false) :
    skipWhile ⟨u ++ t, p⟩ q = ⟨u.dropWhile q ++ t, p.after (u.takeWhile q)⟩ := by
  have hhead : (∀ x ∈ u, q x = true) → t.takeWhile q = [] ∧ t.dropWhile q = t := by
    intro hall
    have hnone := h.resolve_left fun ⟨x, hx, hnot⟩ => by
      rw [hall x hx] at hnot
      cases hnot
    cases t with
    | nil => exact ⟨rfl, rfl⟩
    | cons x t =>
      have hx := hnone x rfl
      exact ⟨List.takeWhile_cons_of_neg (by simp [hx]), List.dropWhile_cons_of_neg (by simp [hx])⟩
  rw [skipWhile, List.takeWhile_append, List.dropWhile_append]
  by_cases hlength : (u.takeWhile q).length = u.length
  · have htake := (List.takeWhile_prefix (l := u) q).eq_of_length hlength
    have hall : ∀ x ∈ u, q x = true := fun x hx => by
      rw [← htake] at hx
      exact List.all_eq_true.1 List.all_takeWhile x hx
    obtain ⟨htake', hdrop'⟩ := hhead hall
    have hdrop : u.dropWhile q = [] := by
      have hsplit := List.takeWhile_append_dropWhile (p := q) (l := u)
      rw [htake] at hsplit
      simpa using hsplit
    rw [if_pos hlength, htake, htake', hdrop, hdrop', List.append_nil]
    rfl
  · have hdrop : (u.dropWhile q).isEmpty = false := by
      refine Bool.eq_false_iff.2 fun hempty => hlength ?_
      have hsplit := congrArg List.length (List.takeWhile_append_dropWhile (p := q) (l := u))
      rw [List.length_append, List.isEmpty_iff.1 hempty] at hsplit
      simpa using hsplit
    rw [if_neg hlength, hdrop]
    rfl

end Cursor

namespace Token

variable {c c' : Char} {r r' : Text}

/-! ## Steps, from what they do -/

theorem StartsLine.startLine?_eq {s s' : Lexing} {ts : List Token} (h : StartsLine s ts s') :
    startLine? s = some (ts, s') := by
  unfold startLine?
  cases h with
  | blank measure content after =>
    rw [measure]
    dsimp only [Option.bind_eq_bind, Option.bind_some]
    rw [if_pos (by simpa using content), after]
  | @inside i r cursor measure content after brackets =>
    rw [measure]
    dsimp only [Option.bind_eq_bind, Option.bind_some]
    have hbrackets : (!s.brackets.isEmpty) = true := by simpa using brackets
    cases r with
    | nil => rw [if_neg Bool.false_ne_true, if_pos hbrackets, after]
    | cons x r => rw [if_neg (by simpa using content), if_pos hbrackets, after]
  | @layout i r cursor kinds levels measure content after brackets means =>
    rw [measure]
    dsimp only [Option.bind_eq_bind, Option.bind_some]
    have hbrackets : ¬ (!s.brackets.isEmpty) = true := by simp [brackets]
    cases r with
    | nil => rw [if_neg Bool.false_ne_true, if_neg hbrackets, means, after]; rfl
    | cons x r => rw [if_neg (by simpa using content), if_neg hbrackets, means, after]; rfl

theorem StepsInLine.stepInLine?_eq {s s' : Lexing} {ts : List Token} (h : StepsInLine s ts s') :
    stepInLine? s = some (.go ts s') := by
  unfold stepInLine?
  cases h with
  | comment skip next =>
    dsimp only
    rw [← skip, next]
    rfl
  | newline skip next brackets =>
    dsimp only
    rw [← skip, next, brackets]
    rfl
  | lineEnd skip next brackets =>
    dsimp only
    rw [← skip, next]
    exact if_neg fun hempty => brackets (List.isEmpty_iff.1 hempty)
  | joined skip next =>
    dsimp only
    rw [← skip, next]
    rfl
  | @lexeme cursor k n brackets skip lexeme open_ =>
    dsimp only
    rw [← skip]
    have hnone : ∀ {x : Char} {t : Text}, cursor.rest = x :: t → x ∉ ['#', '\n', '\\'] := by
      intro x t heq hx
      rw [heq, lexeme?_eq_none hx] at lexeme
      cases lexeme
    split
    next heq =>
      rw [heq] at lexeme
      cases lexeme
    next heq => exact absurd (by decide) (hnone heq)
    next heq => exact absurd (by decide) (hnone heq)
    next heq => exact absurd (by decide) (hnone heq)
    next =>
      rw [lexeme]
      by_cases hk : k = .sign
      · rw [if_pos hk] at open_
        dsimp only [Option.bind_eq_bind, Option.bind_some]
        rw [if_pos hk, open_]
        rfl
      · rw [if_neg hk] at open_
        cases open_
        dsimp only [Option.bind_eq_bind, Option.bind_some]
        rw [if_neg hk]

/-! ## Steps in front of a literal -/

/-- Where something in front of the literal is not passed over, the literal is not reached. -/
theorem exists_of_dropWhile {q : Char → Bool} {u : Text} (hq : q c = true)
    (h : (c :: r).length ≤ ((u ++ c :: r).dropWhile q).length) : ∃ x ∈ u, q x = false := by
  by_contra hnone
  have hall : ∀ x ∈ u, q x = true := by simpa using hnone
  rw [List.dropWhile_append_of_pos hall, List.dropWhile_cons_of_pos hq] at h
  have hle := (List.dropWhile_suffix (l := r) q).length_le
  rw [List.length_cons] at h
  omega

theorem length_dropWhile_pos {q : Char → Bool} {u : Text} (h : ∃ x ∈ u, q x = false) :
    1 ≤ (u.dropWhile q).length := by
  obtain ⟨x, hx, hq⟩ := h
  refine List.length_pos_iff.2 fun hnil => ?_
  have hall := List.dropWhile_eq_nil_iff.1 hnil x hx
  rw [hq] at hall
  cases hall

/-- The indentation of a line ends in front of the literal. -/
theorem measure?_swap (hc : Swap c c') (r' : Text) {i j : Indentation} {joined : Nat} {u v : Text}
    (h : measure? i joined (u ++ c :: r) = some (j, v)) :
    ∃ blank v₀, u = blank ++ v₀ ∧ v = v₀ ++ c :: r ∧
      measure? i joined (u ++ c' :: r') = some (j, v₀ ++ c' :: r') := by
  obtain ⟨hspace, hspace'⟩ := hc.ne (x := ' ') (by decide)
  obtain ⟨htab, htab'⟩ := hc.ne (x := '\t') (by decide)
  obtain ⟨hfeed, hfeed'⟩ := hc.ne (x := '\x0c') (by decide)
  obtain ⟨hslash, hslash'⟩ := hc.ne (x := '\\') (by decide)
  obtain ⟨hbreak, hbreak'⟩ := hc.ne (x := '\n') (by decide)
  have hend : ∀ {x : Char} {i : Indentation} {joined : Nat} {t : Text}, x ≠ ' ' → x ≠ '\t' →
      x ≠ '\x0c' → x ≠ '\\' → measure? i joined (x :: t) =
        some (⟨if joined = 0 then i.wide else joined, if joined = 0 then i.narrow else joined⟩,
          x :: t) := by
    intro x i joined t h₁ h₂ h₃ h₄
    rw [measure?, if_neg h₁, if_neg h₂, if_neg h₃, if_neg h₄]
    exact fun _ heq _ => h₄ heq
  generalize heq : u ++ c :: r = t at h
  fun_induction measure? i joined t generalizing u with
  | case1 => simp at heq
  | case2 => cases h
  | case3 i joined rest hrest ih =>
    rcases List.append_eq_cons_iff.1 heq with ⟨rfl, hcons⟩ | ⟨u₂, rfl, hcons⟩
    · exact absurd (List.cons.inj hcons).1 hslash
    rcases List.append_eq_cons_iff.1 hcons.symm with ⟨rfl, hlast⟩ | ⟨u₃, rfl, hlast⟩
    · exact absurd (List.cons.inj hlast).1 hbreak
    obtain ⟨blank, v₀, rfl, rfl, hread⟩ := ih hlast.symm h
    refine ⟨'\\' :: '\n' :: blank, v₀, rfl, rfl, ?_⟩
    rw [List.cons_append, List.cons_append, measure?, if_neg (by simp)]
    exact hread
  | case4 i joined _ rest ih =>
    rcases List.append_eq_cons_iff.1 heq with ⟨rfl, hcons⟩ | ⟨u₂, rfl, hcons⟩
    · exact absurd (List.cons.inj hcons).1 hspace
    obtain ⟨blank, v₀, rfl, rfl, hread⟩ := ih hcons.symm h
    refine ⟨' ' :: blank, v₀, rfl, rfl, ?_⟩
    rw [List.cons_append, measure?, if_pos rfl, hread]
    exact fun _ heq _ => absurd heq (by decide)
  | case5 i joined _ rest _ ih =>
    rcases List.append_eq_cons_iff.1 heq with ⟨rfl, hcons⟩ | ⟨u₂, rfl, hcons⟩
    · exact absurd (List.cons.inj hcons).1 htab
    obtain ⟨blank, v₀, rfl, rfl, hread⟩ := ih hcons.symm h
    refine ⟨'\t' :: blank, v₀, rfl, rfl, ?_⟩
    rw [List.cons_append, measure?, if_neg (by decide), if_pos rfl, hread]
    exact fun _ heq _ => absurd heq (by decide)
  | case6 i joined _ rest _ _ ih =>
    rcases List.append_eq_cons_iff.1 heq with ⟨rfl, hcons⟩ | ⟨u₂, rfl, hcons⟩
    · exact absurd (List.cons.inj hcons).1 hfeed
    obtain ⟨blank, v₀, rfl, rfl, hread⟩ := ih hcons.symm h
    refine ⟨'\x0c' :: blank, v₀, rfl, rfl, ?_⟩
    rw [List.cons_append, measure?, if_neg (by decide), if_neg (by decide), if_pos rfl, hread]
    exact fun _ heq _ => absurd heq (by decide)
  | case7 => cases h
  | case8 i joined x rest hnot h₁ h₂ h₃ h₄ =>
    cases h
    refine ⟨[], u, rfl, heq.symm, ?_⟩
    cases u with
    | nil => exact hend hspace' htab' hfeed' hslash'
    | cons y u =>
      obtain ⟨rfl, -⟩ := List.cons.inj heq
      exact hend h₁ h₂ h₃ h₄

/-- The beginning of a line in front of a literal does not depend on the literal. -/
theorem StartsLine.swap (hc : Swap c c') (r' : Text) {s s' : Lexing} {ts : List Token} {u : Text}
    {p : Position} (hs : s.cursor = ⟨u ++ c :: r, p⟩) (h : StartsLine s ts s')
    (hlength : (c :: r).length ≤ s'.cursor.rest.length) :
    ∃ u' p', s'.cursor = ⟨u' ++ c :: r, p'⟩ ∧
      StartsLine { s with cursor := ⟨u ++ c' :: r', p⟩ } ts
        { s' with cursor := ⟨u' ++ c' :: r', p'⟩ } := by
  have hhead : ∀ {v₀ t : Text} {x : Char}, x ∉ ['#', '\n'] →
      ((v₀ ++ x :: t).head? ≠ some '#' ∧ (v₀ ++ x :: t).head? ≠ some '\n' ↔
        v₀.head? ≠ some '#' ∧ v₀.head? ≠ some '\n') := by
    intro v₀ t x hx
    cases v₀ with
    | nil => simpa using hx
    | cons y v₀ => simp
  have hnot : c ∉ ['#', '\n'] ∧ c' ∉ ['#', '\n'] := by
    have hsharp := hc.ne (x := '#') (by decide)
    have hbreak := hc.ne (x := '\n') (by decide)
    simp [hsharp, hbreak]
  cases h with
  | @blank i x v cursor measure content after =>
    rw [hs] at measure after
    obtain ⟨blank, v₀, hu, hv, hnew⟩ := measure?_swap hc r' measure
    rw [hv, Cursor.advance_behind hu] at after
    subst after
    obtain ⟨v₁, rfl⟩ : ∃ v₁, v₀ = x :: v₁ := by
      cases v₀ with
      | nil =>
        obtain ⟨rfl, -⟩ := List.cons.inj hv
        exact absurd (by simpa using content) hnot.1
      | cons y v₁ =>
        obtain ⟨rfl, -⟩ := List.cons.inj hv
        exact ⟨v₁, rfl⟩
    -- The line ends in front of the literal.
    have hbreak : ∃ y ∈ x :: v₁, (y != '\n') = false := by
      refine exists_of_dropWhile (c := c) (r := r)
        (by simpa using (hc.ne (x := '\n') (by decide)).1) ?_
      refine hlength.trans ?_
      rw [length_advance]
      exact Nat.sub_le _ _
    have hrest : 1 ≤ ((x :: v₁).dropWhile (· != '\n')).length := length_dropWhile_pos hbreak
    have hskip : ∀ t, ((Cursor.mk (x :: v₁ ++ t) (p.after blank)).skipWhile (· != '\n')).advance 1 =
        ⟨((x :: v₁).dropWhile (· != '\n')).drop 1 ++ t,
          ((p.after blank).after ((x :: v₁).takeWhile (· != '\n'))).after
            (((x :: v₁).dropWhile (· != '\n')).take 1)⟩ := fun t => by
      rw [Cursor.skipWhile_append (.inl hbreak), Cursor.advance_append hrest]
    refine ⟨_, _, hskip _, ?_⟩
    have hline := @StartsLine.blank { s with cursor := ⟨u ++ c' :: r', p⟩ } i x (v₁ ++ c' :: r')
      ⟨x :: v₁ ++ c' :: r', p.after blank⟩ hnew content
      (Cursor.advance_behind hu _).symm
    rw [hskip] at hline
    exact hline
  | @inside i v cursor measure content after brackets =>
    rw [hs] at measure after
    obtain ⟨blank, v₀, hu, rfl, hnew⟩ := measure?_swap hc r' measure
    rw [Cursor.advance_behind hu] at after
    exact ⟨v₀, p.after blank, after, .inside hnew ((hhead hnot.2).2 ((hhead hnot.1).1 content))
      (Cursor.advance_behind hu _).symm brackets⟩
  | @layout i v cursor kinds levels measure content after brackets means =>
    rw [hs] at measure after
    obtain ⟨blank, v₀, hu, rfl, hnew⟩ := measure?_swap hc r' measure
    rw [Cursor.advance_behind hu] at after
    subst after
    exact ⟨v₀, p.after blank, rfl, @StartsLine.layout { s with cursor := ⟨u ++ c' :: r', p⟩ } i
      (v₀ ++ c' :: r') ⟨v₀ ++ c' :: r', p.after blank⟩ kinds levels hnew
      ((hhead hnot.2).2 ((hhead hnot.1).1 content)) (Cursor.advance_behind hu _).symm brackets
      means⟩

/-- A step within a line in front of a literal does not depend on the literal. A string token
must not end where the literal begins, and no word behind a numeral may go on in it. -/
theorem StepsInLine.swap (hc : Swap c c') (r' : Text) {s s' : Lexing} {ts : List Token} {u : Text}
    {p : Position} (hs : s.cursor = ⟨u ++ c :: r, p⟩) (h : StepsInLine s ts s')
    (hlength : (c :: r).length ≤ s'.cursor.rest.length)
    (hstring : ∀ t ∈ ts, t.kind = .string → (c :: r).length < s'.cursor.rest.length)
    (hends : ∀ v, s'.cursor.rest = v ++ c :: r → ∀ t ∈ ts, t.kind = .number →
      Numeral.StartsWord v → Numeral.Ends v c) :
    ∃ u' p', s'.cursor = ⟨u' ++ c :: r, p'⟩ ∧
      StepsInLine { s with cursor := ⟨u ++ c' :: r', p⟩ } ts
        { s' with cursor := ⟨u' ++ c' :: r', p'⟩ } := by
  obtain ⟨hspace, hspace'⟩ := hc.both (p := isSpace) (by decide)
  have hskip : ∀ {x : Char} {t : Text}, isSpace x = false →
      Cursor.skipWhile ⟨u ++ x :: t, p⟩ isSpace =
        ⟨u.dropWhile isSpace ++ x :: t, p.after (u.takeWhile isSpace)⟩ := fun {x t} hx =>
    Cursor.skipWhile_append (.inr fun y hy => by
      obtain rfl : x = y := Option.some.inj hy
      exact hx)
  have hold := hskip (t := r) hspace
  have hnew := (hskip (t := r') hspace').symm
  generalize u.dropWhile isSpace = v at hold hnew
  generalize p.after (u.takeWhile isSpace) = q at hold hnew
  -- What is found in front of the literal is no part of it.
  have hfound : ∀ {x : Char} {w t : Text}, openers.any (· == x) = false →
      w ++ c :: r = x :: t → ∃ w', w = x :: w' ∧ w' ++ c :: r = t := by
    intro x w t hx heq
    cases w with
    | nil => exact absurd (List.cons.inj heq).1 (hc.ne hx).1
    | cons y w =>
      obtain ⟨rfl, ht⟩ := List.cons.inj heq
      exact ⟨w, rfl, ht⟩
  cases h with
  | @comment cursor t skip next =>
    rw [hs, hold] at skip
    subst skip
    obtain ⟨v', rfl, -⟩ := hfound (by decide) next
    have hbreak : ∃ x ∈ '#' :: v', (x != '\n') = false :=
      exists_of_dropWhile (by simpa using (hc.ne (x := '\n') (by decide)).1) hlength
    refine ⟨_, _, Cursor.skipWhile_append (.inl hbreak), ?_⟩
    have hstep := @StepsInLine.comment { s with cursor := ⟨u ++ c' :: r', p⟩ } _ _ hnew rfl
    rw [Cursor.skipWhile_append (.inl hbreak)] at hstep
    exact hstep
  | @newline cursor t skip next brackets =>
    rw [hs, hold] at skip
    subst skip
    obtain ⟨v', rfl, -⟩ := hfound (by decide) next
    exact ⟨v', _, rfl, @StepsInLine.newline { s with cursor := ⟨u ++ c' :: r', p⟩ } _ _ hnew rfl
      brackets⟩
  | @lineEnd cursor t skip next brackets =>
    rw [hs, hold] at skip
    subst skip
    obtain ⟨v', rfl, -⟩ := hfound (by decide) next
    exact ⟨v', _, rfl, @StepsInLine.lineEnd { s with cursor := ⟨u ++ c' :: r', p⟩ } _ _ hnew rfl
      brackets⟩
  | @joined cursor x t skip next =>
    rw [hs, hold] at skip
    subst skip
    obtain ⟨v', rfl, hnext⟩ := hfound (by decide) next
    obtain ⟨v'', rfl, -⟩ := hfound (by decide) hnext
    obtain ⟨y, t', hmore⟩ : ∃ y t', v'' ++ c' :: r' = y :: t' :=
      List.exists_cons_of_ne_nil (by simp)
    exact ⟨v'', _, rfl, @StepsInLine.joined { s with cursor := ⟨u ++ c' :: r', p⟩ } _ y t' hnew
      (by rw [← hmore]; rfl)⟩
  | @lexeme cursor k n brackets skip lexeme open_ =>
    rw [hs, hold] at skip
    subst skip
    have hbounds := lexeme?_bounds lexeme
    rw [length_advance] at hlength
    have hn : n ≤ v.length := by
      simp only [List.length_append] at hlength hbounds
      omega
    have hne : v ≠ [] := by
      rintro rfl
      simp only [List.length_nil] at hn
      omega
    have htake : ∀ t, (v ++ t).take n = v.take n := fun t => List.take_append_of_le_length hn
    have hafter : ∀ t, Cursor.advance ⟨v ++ t, q⟩ n = ⟨v.drop n ++ t, q.after (v.take n)⟩ :=
      fun t => Cursor.advance_append hn
    have hread := lexeme?_swap hc r' hne lexeme hn
      (fun hk => by
        have hlt := hstring _ (List.mem_singleton_self _) hk
        rw [hafter] at hlt
        simp only [List.length_append, List.length_drop] at hlt
        omega)
      (fun hk => hends (v.drop n) (by rw [hafter]) _ (List.mem_singleton_self _) hk)
    rw [htake] at open_
    refine ⟨v.drop n, q.after (v.take n), hafter _, ?_⟩
    have hstep := @StepsInLine.lexeme { s with cursor := ⟨u ++ c' :: r', p⟩ } _ k n brackets hnew
      hread (by rw [htake]; exact open_)
    rw [hafter, htake] at hstep
    rw [hafter, htake]
    exact hstep

/-- A step in front of a literal does not depend on the literal. -/
theorem step?_swap (hc : Swap c c') (r' : Text) {s s' : Lexing} {ts : List Token} {u : Text}
    {p : Position} (hs : s.cursor = ⟨u ++ c :: r, p⟩) (h : step? s = some (.go ts s'))
    (hlength : (c :: r).length ≤ s'.cursor.rest.length)
    (hstring : ∀ t ∈ ts, t.kind = .string → (c :: r).length < s'.cursor.rest.length)
    (hends : ∀ v, s'.cursor.rest = v ++ c :: r → ∀ t ∈ ts, t.kind = .number →
      Numeral.StartsWord v → Numeral.Ends v c) :
    ∃ u' p', s'.cursor = ⟨u' ++ c :: r, p'⟩ ∧
      step? { s with cursor := ⟨u ++ c' :: r', p⟩ } =
        some (.go ts { s' with cursor := ⟨u' ++ c' :: r', p'⟩ }) := by
  unfold step?
  rcases step?_cases h with ⟨hstart, hline⟩ | ⟨hstart, hline⟩
  · obtain ⟨u', p', hcursor, hnew⟩ := hline.swap hc r' hs hlength
    refine ⟨u', p', hcursor, ?_⟩
    rw [if_pos hstart, hnew.startLine?_eq]
    rfl
  · obtain ⟨u', p', hcursor, hnew⟩ := hline.swap hc r' hs hlength hstring hends
    refine ⟨u', p', hcursor, ?_⟩
    rw [if_neg (by simp [hstart]), hnew.stepInLine?_eq]

/-! ## Up to a literal -/

/-- A token that stands where the literal begins is not behind it. -/
theorem Yields.before {c₁ c₂ : Cursor} {u v w : Text} {p : Position} {ts : List Token} {t : Token}
    (hpasses : Cursor.Passes ⟨u ++ v, p⟩ w c₁) (h : Yields c₁ ts c₂) (ht : t ∈ ts)
    (hstart : t.extent.start = p.after u) : ∃ u', u = w ++ u' ∧ c₁ = ⟨u' ++ v, p.after w⟩ := by
  obtain ⟨pre, ⟨more, hmore⟩, hpre, -⟩ := h.exists_of_mem ht
  have hrest : u ++ v = w ++ c₁.rest := hpasses.rest
  have hposition : c₁.position = p.after w := hpasses.position
  rw [hposition, ← Position.after_append, hstart] at hpre
  have hwhole : u ++ v = w ++ pre ++ (t.text ++ more) := by
    rw [hrest, ← hmore]
    simp only [List.append_assoc]
  have hu : u = w ++ pre := Position.eq_of_after_eq hwhole hpre
  refine ⟨pre, hu, ?_⟩
  rw [hu, List.append_assoc] at hrest
  obtain ⟨rest, position⟩ := c₁
  rw [Cursor.mk.injEq]
  exact ⟨(List.append_cancel_left hrest).symm, hposition⟩

/-- What a step does that takes a token other than one of layout. -/
theorem lexeme_of_step? {s s' : Lexing} {ts : List Token} {t : Token}
    (h : step? s = some (.go ts s')) (ht : t ∈ ts) (hkind : isLayoutKind t.kind = false) :
    ts = [t] ∧ s.atLineStart = false ∧
      t.extent = ⟨(s.cursor.skipWhile isSpace).position, s'.cursor.position⟩ ∧
      ∃ brackets, (t.kind ≠ .sign → brackets = s.brackets) ∧
        s' = { s with
          cursor := (s.cursor.skipWhile isSpace).advance t.text.length, brackets := brackets } := by
  rcases step?_cases h with ⟨-, hline⟩ | ⟨hstart, hline⟩
  · cases hline with
    | blank => cases ht
    | inside => cases ht
    | layout _ _ _ _ means =>
      obtain ⟨k, hk, rfl⟩ := List.mem_map.1 ht
      rw [isLayoutKind_of_layout? means k hk] at hkind
      cases hkind
  · cases hline with
    | comment => cases ht
    | newline =>
      rw [List.mem_singleton.1 ht] at hkind
      cases hkind
    | lineEnd => cases ht
    | joined => cases ht
    | @lexeme cursor k n brackets skip lexeme open_ =>
      subst skip
      obtain rfl := List.mem_singleton.1 ht
      have htake : ((s.cursor.skipWhile isSpace).rest.take n).length = n := by
        rw [List.length_take]
        exact Nat.min_eq_left (lexeme?_bounds lexeme).2
      refine ⟨rfl, hstart, rfl, brackets, fun hsign => ?_, ?_⟩
      · rw [if_neg hsign] at open_
        exact (Option.some.inj open_).symm
      · dsimp only
        rw [htake]

/-- A string token is taken by a step of its own. -/
theorem takes_string {s s' : Lexing} {ts us before after : List Token} {t : Token}
    (h : step? s = some (.go ts s')) (hkind : t.kind = .string)
    (heq : ts ++ us = before ++ t :: after) :
    before = [] ∧ ts = [t] ∧ us = after ∨
      ∃ before', before = ts ++ before' ∧ us = before' ++ t :: after := by
  rcases List.append_eq_append_iff.1 heq with ⟨x, hbefore, hus⟩ | ⟨x, hts, hafter⟩
  · exact .inr ⟨x, hbefore, hus⟩
  cases x with
  | nil =>
    rw [List.append_nil] at hts
    exact .inr ⟨[], by rw [hts, List.append_nil], hafter.symm⟩
  | cons y x =>
    obtain ⟨rfl, hafter⟩ := List.cons.inj hafter
    obtain ⟨hone, -⟩ := lexeme_of_step? h (t := t) (by rw [hts]; simp) (by rw [hkind]; rfl)
    rw [hone] at hts
    have hlength := congrArg List.length hts
    simp only [List.length_append, List.length_cons, List.length_nil] at hlength
    have hbefore : before = [] := List.length_eq_zero_iff.1 (by omega)
    rw [hone, hbefore] at heq
    exact .inl ⟨hbefore, hone, (List.cons.inj heq).2⟩

/-- A word goes on up to a character that belongs to no name. -/
theorem length_lt_of_lexeme? {v : Text} {k : TokenKind} {n : Nat}
    (hv : Numeral.StartsWord v) (hnot : ¬ Numeral.Ends v c)
    (h : lexeme? (v ++ c :: r) = some (k, n)) : v.length < n := by
  obtain ⟨hall, hc⟩ : (∀ x ∈ v, Numeral.isNameChar x = true) ∧ Numeral.isNameChar c = true := by
    simpa [Numeral.Ends] using hnot
  cases hletters : Literal.literalLetters? (v ++ c :: r) with
  | some m =>
    have hread := h
    rw [lexeme?_of_letters hletters] at hread
    obtain ⟨⟨p, rest⟩, hpiece, -⟩ := Option.map_eq_some_iff.1 hread
    rw [lexeme?_of_splitPiece? hpiece] at h
    cases h
    by_contra hle
    -- Then the quote of the literal would be part of the word.
    obtain ⟨more, hmore⟩ := List.prefix_of_prefix_length_le
      ⟨rest, (Literal.splitPiece?_eq hpiece).symm⟩ (List.prefix_append v (c :: r)) (not_lt.1 hle)
    have hquote : p.mark ∈ v := by
      rw [← hmore]
      exact List.mem_append_left _ (List.mem_of_getLast? (Literal.getLast?_text p))
    have hmark := isNameChar_of_isMark (Literal.splitPiece?_isMark hpiece)
    rw [hall _ hquote] at hmark
    cases hmark
  | none =>
    obtain ⟨a, ha, hstart⟩ := hv
    obtain ⟨v, rfl⟩ : ∃ v', v = a :: v' := List.head?_eq_some_iff.1 ha
    have htake : (a :: (v ++ c :: r)).takeWhile Numeral.isNameChar =
        a :: v ++ c :: r.takeWhile Numeral.isNameChar := by
      rw [← List.cons_append, List.takeWhile_append_of_pos hall, List.takeWhile_cons_of_pos hc]
    rw [List.cons_append] at h hletters
    rw [lexeme?_cons hletters, if_pos hstart, htake] at h
    dsimp only at h
    split at h
    · cases h
      simp
    · cases h

theorem Yields.passes {c₁ c₂ : Cursor} {ts : List Token} (h : Yields c₁ ts c₂) :
    ∃ w, c₁.Passes w c₂ := by
  induction h with
  | nil hpasses => exact ⟨_, hpasses⟩
  | cons hpasses _ htakes _ _ ih =>
    obtain ⟨w, hrest⟩ := ih
    exact ⟨_, (hpasses.trans htakes).trans hrest⟩

variable {s s' : Lexing} {ts us before after : List Token} {t : Token} {u : Text} {p : Position}
  {n : Nat}

/-- The steps in front of a token end where it begins, or in front of that. -/
theorem before_of_step? (hs : s.cursor = ⟨u ++ r, p⟩) (h : step? s = some (.go ts s'))
    (hrest : lexFrom? n s' = some us) (ht : t ∈ us) (hstart : t.extent.start = p.after u) :
    ∃ w u', u = w ++ u' ∧ s'.cursor = ⟨u' ++ r, p.after w⟩ := by
  obtain ⟨c₁, hyields⟩ := yields_of_lexFrom? hrest
  obtain ⟨w, hpasses⟩ := (yields_of_step? h).passes
  rw [hs] at hpasses
  exact ⟨w, Yields.before hpasses hyields ht hstart⟩

theorem step?_of_lexFrom? (h : lexFrom? n s = some (before ++ t :: after))
    (hkind : t.kind = .string) :
    ∃ ts s' us m, n = m + 1 ∧ step? s = some (.go ts s') ∧ lexFrom? m s' = some us ∧
      ts ++ us = before ++ t :: after := by
  cases n with
  | zero => cases h
  | succ m =>
    rw [lexFrom?] at h
    split at h
    next => cases h
    next last hstep =>
      obtain ⟨-, hfinish, -⟩ := stop_of_step? hstep
      have hmem : t ∈ [last] := by
        rw [Option.some.inj h]
        simp
      rw [List.mem_singleton.1 hmem, hfinish] at hkind
      cases hkind
    next ts s' hstep =>
      obtain ⟨us, hrest, heq⟩ := Option.map_eq_some_iff.1 h
      exact ⟨ts, s', us, m, rfl, hstep, hrest, heq⟩

/-- Where a literal begins within a line, its token comes next. -/
theorem eq_nil_of_lexFrom? (hs : s.cursor = ⟨c :: r, p⟩) (hline : s.atLineStart = false)
    (h : lexFrom? n s = some (before ++ t :: after)) (hkind : t.kind = .string)
    (hstart : t.extent.start = p) : before = [] := by
  obtain ⟨ts, s', us, m, -, hstep, hrest, heq⟩ := step?_of_lexFrom? h hkind
  rcases takes_string hstep hkind heq with ⟨hnil, -⟩ | ⟨before', -, hus⟩
  · exact hnil
  · exfalso
    rcases step?_cases hstep with ⟨hnot, -⟩ | ⟨-, hsteps⟩
    · rw [hline] at hnot
      cases hnot
    have hlt := hsteps.length_lt
    obtain ⟨w, u', hu, hcursor⟩ := before_of_step? (u := []) hs hstep hrest
      (t := t) (by rw [hus]; simp) hstart
    rw [hs, hcursor] at hlt
    simp only [List.length_append, List.length_cons] at hlt
    omega

/-- A word in front of a literal ends there. -/
theorem ends_of_lexFrom? (hs : s.cursor = ⟨u ++ c :: r, p⟩) (hline : s.atLineStart = false)
    (h : lexFrom? n s = some (before ++ t :: after)) (hkind : t.kind = .string)
    (hstart : t.extent.start = p.after u) (hu : Numeral.StartsWord u) : Numeral.Ends u c := by
  by_contra hnot
  obtain ⟨ts, s', us, m, -, hstep, hrest, heq⟩ := step?_of_lexFrom? h hkind
  obtain ⟨k, n, token, hlexeme, rfl, hcursor, hposition⟩ : ∃ k n token,
      lexeme? (u ++ c :: r) = some (k, n) ∧ ts = [token] ∧ s'.cursor = s.cursor.advance n ∧
        token.extent.start = p := by
    rcases step?_cases hstep with ⟨hnot, -⟩ | ⟨-, hsteps⟩
    · rw [hline] at hnot
      cases hnot
    obtain ⟨a, ha, hword⟩ := hu
    obtain ⟨v, rfl⟩ : ∃ v, u = a :: v := List.head?_eq_some_iff.1 ha
    have hspace : isSpace a = false := by
      refine Bool.eq_false_iff.2 fun hspace => ?_
      simp only [isSpace, Bool.or_eq_true, beq_iff_eq] at hspace
      rcases hspace with (rfl | rfl) | rfl <;> cases hword
    have hskip : s.cursor.skipWhile isSpace = ⟨a :: v ++ c :: r, p⟩ := by
      rw [hs, Cursor.skipWhile_append (.inl ⟨a, List.mem_cons_self, hspace⟩),
        List.dropWhile_cons_of_neg (by simp [hspace]),
        List.takeWhile_cons_of_neg (by simp [hspace])]
      rfl
    have hfirst : ∀ {x : Char} {w : Text}, mayStartName x = false → a :: v ++ c :: r ≠ x :: w := by
      intro x w hx hcons
      rw [(List.cons.inj hcons).1, hx] at hword
      cases hword
    cases hsteps with
    | comment skip next =>
      rw [skip, hskip] at next
      exact absurd next (hfirst (by decide))
    | newline skip next =>
      rw [skip, hskip] at next
      exact absurd next (hfirst (by decide))
    | lineEnd skip next =>
      rw [skip, hskip] at next
      exact absurd next (hfirst (by decide))
    | joined skip next =>
      rw [skip, hskip] at next
      exact absurd next (hfirst (by decide))
    | lexeme skip lexeme =>
      rw [hskip] at skip
      subst skip
      exact ⟨_, _, _, lexeme, rfl, by rw [hs], rfl⟩
  have hlt := length_lt_of_lexeme? hu hnot hlexeme
  rcases takes_string hstep hkind heq with ⟨-, htoken, -⟩ | ⟨before', -, hus⟩
  · obtain rfl : token = t := by simpa using htoken
    have hne : u ≠ [] := by
      rintro rfl
      obtain ⟨a, ha, -⟩ := hu
      cases ha
    exact (Position.lt_after hne).ne (hposition.symm.trans hstart)
  · obtain ⟨w, u', -, hcursor'⟩ :=
      before_of_step? hs hstep hrest (t := t) (by rw [hus]; simp) hstart
    have hlength := congrArg (fun c => c.rest.length) (hcursor.symm.trans hcursor')
    dsimp only at hlength
    rw [length_advance, hs] at hlength
    simp only [List.length_append, List.length_cons] at hlength
    omega

/-- Up to a literal the tokens do not depend on it. -/
theorem lexFrom?_swap (hc : Swap c c') (r' : Text) (hs : s.cursor = ⟨u ++ c :: r, p⟩)
    (h : lexFrom? n s = some (before ++ t :: after)) (hkind : t.kind = .string)
    (hstart : t.extent.start = p.after u) (hlast : ∀ t ∈ before.getLast?, t.kind ≠ .string) :
    ∃ m s₁ blank q, s₁.cursor = ⟨blank ++ c :: r, q⟩ ∧ (∀ x ∈ blank, isSpace x = true) ∧
      q.after blank = p.after u ∧ s₁.atLineStart = false ∧
      lexFrom? m s₁ = some (t :: after) ∧
      ∀ k ts, lexFrom? k { s₁ with cursor := ⟨blank ++ c' :: r', q⟩ } = some ts →
        ∃ k', lexFrom? k' { s with cursor := ⟨u ++ c' :: r', p⟩ } = some (before ++ ts) := by
  induction n generalizing s u p before with
  | zero => cases h
  | succ n ih =>
    obtain ⟨ts, s', us, m, hm, hstep, hrest, heq⟩ := step?_of_lexFrom? h hkind
    obtain rfl := Nat.succ.inj hm
    rcases takes_string hstep hkind heq with ⟨rfl, rfl, rfl⟩ | ⟨before', rfl, rfl⟩
    · -- The literal comes next.
      obtain ⟨-, hline, hextent, -⟩ := lexeme_of_step? hstep (List.mem_singleton_self t)
        (by rw [hkind]; rfl)
      have hblank : ∀ x ∈ u, isSpace x = true := by
        rw [hs, Cursor.skipWhile_append (.inr fun x hx => by
          obtain rfl : c = x := Option.some.inj hx
          exact (hc.both (p := isSpace) (by decide)).1)] at hextent
        have hposition := hstart.symm.trans (congrArg Extent.start hextent)
        have hsplit := List.takeWhile_append_dropWhile (p := isSpace) (l := u)
        have hnil : u.dropWhile isSpace = [] := by
          by_contra hne
          have hlt := Position.lt_after (p := p.after (u.takeWhile isSpace)) hne
          rw [← Position.after_append, hsplit] at hlt
          exact hlt.ne' hposition
        rw [hnil, List.append_nil] at hsplit
        rw [← hsplit]
        exact List.all_eq_true.1 List.all_takeWhile
      exact ⟨n + 1, s, u, p, hs, hblank, rfl, hline, h, fun k ts hts => ⟨k, hts⟩⟩
    · obtain ⟨w, u', hu, hcursor⟩ := before_of_step? hs hstep hrest (t := t) (by simp) hstart
      have hstart' : t.extent.start = (p.after w).after u' := by
        rw [hstart, hu, Position.after_append]
      have hinLine : ∀ x ∈ ts, isLayoutKind x.kind = false → s'.atLineStart = false := by
        intro x hx hlayout
        obtain ⟨-, hline, -, -, -, rfl⟩ := lexeme_of_step? hstep hx hlayout
        exact hline
      obtain ⟨u₁, p₁, hcursor₁, hnew⟩ := step?_swap hc r' hs hstep
        (by
          rw [hcursor, List.length_append]
          exact Nat.le_add_left _ _)
        (fun x hx hstring => by
          -- Otherwise the literal would have a piece in front of it.
          rw [hcursor, List.length_append]
          by_contra hle
          obtain rfl : u' = [] := List.length_eq_zero_iff.1 (by omega)
          obtain ⟨hone, -⟩ := lexeme_of_step? hstep hx (by rw [hstring]; rfl)
          have hnil := eq_nil_of_lexFrom? hcursor (hinLine x hx (by rw [hstring]; rfl)) hrest
            hkind hstart'
          rw [hone, hnil] at hlast
          exact hlast x rfl hstring)
        (fun v hv x hx hnumber => by
          have huv : u' = v := by
            rw [hcursor] at hv
            exact List.append_cancel_right hv
          subst huv
          exact ends_of_lexFrom? hcursor (hinLine x hx (by rw [hnumber]; rfl)) hrest hkind hstart')
      have hsame : u₁ = u' ∧ p₁ = p.after w := by
        rw [hcursor, Cursor.mk.injEq] at hcursor₁
        exact ⟨(List.append_cancel_right hcursor₁.1).symm, hcursor₁.2.symm⟩
      obtain ⟨rfl, rfl⟩ := hsame
      obtain ⟨m, s₁, blank, q, hcursor₁, hblank, hq, hline, hread, hnext⟩ :=
        ih hcursor hrest hstart' fun x hx => hlast x (by rw [List.getLast?_append, hx]; rfl)
      refine ⟨m, s₁, blank, q, hcursor₁, hblank, ?_, hline, hread, fun k us hus => ?_⟩
      · rw [hq, ← hstart', hstart]
      · obtain ⟨k', hk'⟩ := hnext k us hus
        refine ⟨k' + 1, ?_⟩
        rw [lexFrom?, hnew]
        dsimp only
        rw [hk']
        exact congrArg some (List.append_assoc ..).symm

end Token

end TextDomain
