import TextDomain.Proofs.Source.Lexeme

/-!
# Steps of the lexer

What one step of the lexer does, listed once for steps at the beginning of a
line and once for steps within a line. Every step passes over some text, leaves
the rest as it is, and lowers a potential; the number of steps that the lexer is
given therefore makes no difference as long as it exceeds the potential.

## Main results

* `StartsLine.of_startLine?`, `StepsInLine.of_stepInLine?` — what a step does.
* `lexFrom?_eq_lexAt?` — the lexer is given steps enough.
* `yields_of_lexFrom?` — tokens stand one after another in the text.
* `isLexeme_of_lexFrom?` — tokens other than those of layout are lexemes.
-/

namespace TextDomain

namespace Cursor

/-- `c'` is where `c` comes to when it passes over `t`. -/
structure Passes (c : Cursor) (t : Text) (c' : Cursor) : Prop where
  rest : c.rest = t ++ c'.rest
  position : c'.position = c.position.after t

theorem Passes.refl (c : Cursor) : c.Passes [] c := ⟨rfl, rfl⟩

theorem Passes.trans {c c' c'' : Cursor} {t u : Text} (h : c.Passes t c') (h' : c'.Passes u c'') :
    c.Passes (t ++ u) c'' :=
  ⟨by rw [h.rest, h'.rest, List.append_assoc],
    by rw [h'.position, h.position, Position.after_append]⟩

theorem passes_advance (c : Cursor) (n : Nat) : c.Passes (c.rest.take n) (c.advance n) :=
  ⟨(List.take_append_drop n c.rest).symm, rfl⟩

theorem passes_skipWhile (c : Cursor) (p : Char → Bool) :
    c.Passes (c.rest.takeWhile p) (c.skipWhile p) :=
  ⟨List.takeWhile_append_dropWhile.symm, rfl⟩

theorem Passes.length_eq {c c' : Cursor} {t : Text} (h : c.Passes t c') :
    c.rest.length = t.length + c'.rest.length := by
  rw [h.rest, List.length_append]

end Cursor

namespace Token

/-! ## Beginning a line -/

/-- Measuring an indentation passes over a part of the text. -/
theorem measure?_suffix {i j : Indentation} {joined : Nat} {t r : Text}
    (h : measure? i joined t = some (j, r)) : ∃ blank, t = blank ++ r := by
  fun_induction measure? i joined t with
  | case1 =>
    cases h
    exact ⟨[], rfl⟩
  | case2 => cases h
  | case3 i joined rest _ ih =>
    obtain ⟨blank, rfl⟩ := ih h
    exact ⟨'\\' :: '\n' :: blank, rfl⟩
  | case4 i joined _ rest ih =>
    obtain ⟨blank, rfl⟩ := ih h
    exact ⟨_ :: blank, rfl⟩
  | case5 i joined _ rest _ ih =>
    obtain ⟨blank, rfl⟩ := ih h
    exact ⟨_ :: blank, rfl⟩
  | case6 i joined _ rest _ _ ih =>
    obtain ⟨blank, rfl⟩ := ih h
    exact ⟨_ :: blank, rfl⟩
  | case7 => cases h
  | case8 =>
    cases h
    exact ⟨[], rfl⟩

/-- What a step at the beginning of a line does. -/
inductive StartsLine (s : Lexing) : List Token → Lexing → Prop where
  /-- It passes over a line without content. -/
  | blank {i : Indentation} {c : Char} {r : Text} {cursor : Cursor}
      (measure : measure? ⟨0, 0⟩ 0 s.cursor.rest = some (i, c :: r))
      (content : c = '#' ∨ c = '\n')
      (after : cursor = s.cursor.advance (s.cursor.rest.length - (c :: r).length)) :
      StartsLine s []
        { s with cursor := (cursor.skipWhile (· != '\n')).advance 1 }
  /-- It passes over the indentation of a line inside brackets. -/
  | inside {i : Indentation} {r : Text} {cursor : Cursor}
      (measure : measure? ⟨0, 0⟩ 0 s.cursor.rest = some (i, r))
      (content : r.head? ≠ some '#' ∧ r.head? ≠ some '\n')
      (after : cursor = s.cursor.advance (s.cursor.rest.length - r.length))
      (brackets : s.brackets ≠ []) :
      StartsLine s [] { s with cursor := cursor, atLineStart := false }
  /-- It passes over the indentation of a line and says what it means. -/
  | layout {i : Indentation} {r : Text} {cursor : Cursor} {kinds : List TokenKind}
      {levels : List Indentation}
      (measure : measure? ⟨0, 0⟩ 0 s.cursor.rest = some (i, r))
      (content : r.head? ≠ some '#' ∧ r.head? ≠ some '\n')
      (after : cursor = s.cursor.advance (s.cursor.rest.length - r.length))
      (brackets : s.brackets = [])
      (means : layout? s.levels i = some (kinds, levels)) :
      StartsLine s (kinds.map fun k => ⟨k, [], ⟨cursor.position, cursor.position⟩⟩)
        { s with cursor := cursor, levels := levels, atLineStart := false }

theorem StartsLine.of_startLine? {s s' : Lexing} {ts : List Token}
    (h : startLine? s = some (ts, s')) : StartsLine s ts s' := by
  unfold startLine? at h
  obtain ⟨⟨i, r⟩, hmeasure, h⟩ := Option.bind_eq_some_iff.1 h
  dsimp only at h
  have hrest : r.head? ≠ some '#' ∧ r.head? ≠ some '\n' →
      ((if (!s.brackets.isEmpty) = true then
          some ([], { s with
            cursor := s.cursor.advance (s.cursor.rest.length - r.length), atLineStart := false })
        else (layout? s.levels i).bind fun means =>
          some (means.1.map fun k => ⟨k, [],
            ⟨(s.cursor.advance (s.cursor.rest.length - r.length)).position,
              (s.cursor.advance (s.cursor.rest.length - r.length)).position⟩⟩,
            { s with
              cursor := s.cursor.advance (s.cursor.rest.length - r.length)
              levels := means.2
              atLineStart := false })) = some (ts, s')) → StartsLine s ts s' := by
    intro hr h
    split at h
    next hbrackets =>
      cases h
      exact .inside hmeasure hr rfl (by simpa using hbrackets)
    next hbrackets =>
      obtain ⟨⟨kinds, levels⟩, hlayout, h⟩ := Option.bind_eq_some_iff.1 h
      cases h
      exact .layout hmeasure hr rfl (by simpa using hbrackets) hlayout
  cases r with
  | nil => exact hrest ⟨by simp, by simp⟩ h
  | cons c r =>
    by_cases hc : (c == '#' || c == '\n') = true
    · rw [if_pos hc] at h
      cases h
      exact .blank hmeasure (by simpa using hc) rfl
    · rw [if_neg hc] at h
      exact hrest (by simpa using hc) h

/-! ## Within a line -/

/-- What a step within a line does that is not the last. -/
inductive StepsInLine (s : Lexing) : List Token → Lexing → Prop where
  /-- It passes over a comment. -/
  | comment {cursor : Cursor} {r : Text} (skip : cursor = s.cursor.skipWhile isSpace)
      (next : cursor.rest = '#' :: r) :
      StepsInLine s [] { s with cursor := cursor.skipWhile (· != '\n') }
  /-- It passes over the end of a logical line. -/
  | newline {cursor : Cursor} {r : Text} (skip : cursor = s.cursor.skipWhile isSpace)
      (next : cursor.rest = '\n' :: r) (brackets : s.brackets = []) :
      StepsInLine s [⟨.newline, [], ⟨cursor.position, cursor.position⟩⟩]
        { s with cursor := cursor.advance 1, atLineStart := true }
  /-- It passes over the end of a line inside brackets. -/
  | lineEnd {cursor : Cursor} {r : Text} (skip : cursor = s.cursor.skipWhile isSpace)
      (next : cursor.rest = '\n' :: r) (brackets : s.brackets ≠ []) :
      StepsInLine s [] { s with cursor := cursor.advance 1, atLineStart := true }
  /-- It passes over a backslash that joins the line with the next. -/
  | joined {cursor : Cursor} {c : Char} {r : Text} (skip : cursor = s.cursor.skipWhile isSpace)
      (next : cursor.rest = '\\' :: '\n' :: c :: r) :
      StepsInLine s [] { s with cursor := cursor.advance 2 }
  /-- It takes a token. -/
  | lexeme {cursor : Cursor} {k : TokenKind} {n : Nat} {brackets : List Char}
      (skip : cursor = s.cursor.skipWhile isSpace)
      (lexeme : lexeme? cursor.rest = some (k, n))
      (open_ : (if k = .sign then bracketsAfter? (cursor.rest.take n) s.brackets
        else some s.brackets) = some brackets) :
      StepsInLine s [⟨k, cursor.rest.take n, ⟨cursor.position, (cursor.advance n).position⟩⟩]
        { s with cursor := cursor.advance n, brackets := brackets }

theorem StepsInLine.of_stepInLine? {s s' : Lexing} {ts : List Token}
    (h : stepInLine? s = some (.go ts s')) : StepsInLine s ts s' := by
  unfold stepInLine? at h
  dsimp only at h
  split at h
  next =>
    split at h <;> cases h
  next hnext =>
    cases h
    exact .comment rfl hnext
  next hnext =>
    split at h
    next hbrackets =>
      cases h
      exact .newline rfl hnext (List.isEmpty_iff.1 hbrackets)
    next hbrackets =>
      cases h
      exact .lineEnd rfl hnext fun hnil => hbrackets (List.isEmpty_iff.2 hnil)
  next rest hnext =>
    split at h
    next => cases h
    next hrest =>
      cases h
      cases rest with
      | nil => exact absurd rfl hrest
      | cons c rest => exact .joined rfl hnext
  next =>
    obtain ⟨⟨k, n⟩, hlexeme, h⟩ := Option.bind_eq_some_iff.1 h
    dsimp only at h
    split at h
    next hkind =>
      obtain ⟨brackets, hbrackets, h⟩ := Option.bind_eq_some_iff.1 h
      cases h
      exact .lexeme rfl hlexeme ((if_pos hkind).trans hbrackets)
    next hkind =>
      cases h
      exact .lexeme rfl hlexeme (if_neg hkind)

/-- What a step does that is not the last: it begins a line or goes on in one. -/
theorem step?_cases {s s' : Lexing} {ts : List Token} (h : step? s = some (.go ts s')) :
    s.atLineStart = true ∧ StartsLine s ts s' ∨ s.atLineStart = false ∧ StepsInLine s ts s' := by
  unfold step? at h
  split at h
  next hstart =>
    obtain ⟨⟨ts', s''⟩, hline, heq⟩ := Option.map_eq_some_iff.1 h
    cases heq
    exact .inl ⟨hstart, .of_startLine? hline⟩
  next hstart => exact .inr ⟨Bool.eq_false_iff.2 hstart, .of_stepInLine? h⟩

/-! ## Progress -/

theorem passes_measured {c : Cursor} {i : Indentation} {r : Text}
    (h : measure? ⟨0, 0⟩ 0 c.rest = some (i, r)) :
    ∃ blank, c.Passes blank (c.advance (c.rest.length - r.length)) ∧
      (c.advance (c.rest.length - r.length)).rest = r := by
  obtain ⟨blank, heq⟩ := measure?_suffix h
  have hlength : c.rest.length - r.length = blank.length := by
    rw [heq, List.length_append]
    omega
  have hpasses := c.passes_advance (c.rest.length - r.length)
  have htake : c.rest.take (c.rest.length - r.length) = blank := by
    rw [hlength, heq, List.take_left]
  rw [htake] at hpasses
  exact ⟨blank, hpasses, List.append_cancel_left (hpasses.rest.symm.trans heq)⟩

/-- The tokens stand one after another in the text between two cursors, with
other text before, between and behind them. -/
inductive Yields : Cursor → List Token → Cursor → Prop where
  /-- No tokens. -/
  | nil {c c' : Cursor} {t : Text} (passes : c.Passes t c') : Yields c [] c'
  /-- A token and those behind it. -/
  | cons {c c₁ c₂ c' : Cursor} {before : Text} {t : Token} {ts : List Token}
      (passes : c.Passes before c₁) (start : t.extent.start = c₁.position)
      (takes : c₁.Passes t.text c₂) (stop : t.extent.stop = c₂.position)
      (rest : Yields c₂ ts c') : Yields c (t :: ts) c'

namespace Yields

variable {c c' c'' : Cursor} {t : Text} {ts us : List Token}

theorem of_passes (hpasses : c.Passes t c') (h : Yields c' ts c'') : Yields c ts c'' := by
  cases h with
  | nil hnext => exact .nil (hpasses.trans hnext)
  | cons hnext hstart htakes hstop hrest =>
    exact .cons (hpasses.trans hnext) hstart htakes hstop hrest

theorem append (h : Yields c ts c') (h' : Yields c' us c'') : Yields c (ts ++ us) c'' := by
  induction h with
  | nil hpasses => exact h'.of_passes hpasses
  | cons hpasses hstart htakes hstop _ ih => exact .cons hpasses hstart htakes hstop (ih h')

/-- Tokens of layout stand where the cursor stands. -/
theorem layout (c : Cursor) (kinds : List TokenKind) :
    Yields c (kinds.map fun k => ⟨k, [], ⟨c.position, c.position⟩⟩) c := by
  induction kinds with
  | nil => exact .nil (.refl c)
  | cons k kinds ih => exact .cons (.refl c) rfl (.refl c) rfl ih

end Yields

/-- A step yields its tokens between the cursors before and behind it. -/
theorem yields_of_step? {s s' : Lexing} {ts : List Token} (h : step? s = some (.go ts s')) :
    Yields s.cursor ts s'.cursor := by
  rcases step?_cases h with ⟨-, hline⟩ | ⟨-, hline⟩
  · cases hline with
    | blank hmeasure _ hcursor =>
      obtain ⟨blank, hpasses, -⟩ := passes_measured hmeasure
      subst hcursor
      exact .nil ((hpasses.trans (Cursor.passes_skipWhile _ _)).trans (Cursor.passes_advance _ _))
    | inside hmeasure _ hcursor =>
      obtain ⟨blank, hpasses, -⟩ := passes_measured hmeasure
      subst hcursor
      exact .nil hpasses
    | layout hmeasure _ hcursor =>
      obtain ⟨blank, hpasses, -⟩ := passes_measured hmeasure
      subst hcursor
      exact (Yields.layout _ _).of_passes hpasses
  · have hskip := s.cursor.passes_skipWhile isSpace
    cases hline with
    | comment hcursor =>
      subst hcursor
      exact .nil (hskip.trans (Cursor.passes_skipWhile _ _))
    | newline hcursor =>
      subst hcursor
      exact .cons hskip rfl (.refl _) rfl (.nil (Cursor.passes_advance _ _))
    | lineEnd hcursor =>
      subst hcursor
      exact .nil (hskip.trans (Cursor.passes_advance _ _))
    | joined hcursor =>
      subst hcursor
      exact .nil (hskip.trans (Cursor.passes_advance _ _))
    | lexeme hcursor =>
      subst hcursor
      exact .cons hskip rfl (Cursor.passes_advance _ _) rfl (.nil (.refl _))

/-- What is left to do: two steps for a character, and one at the beginning of a
line. -/
def potential (s : Lexing) : Nat :=
  2 * s.cursor.rest.length + if s.atLineStart then 1 else 0

theorem length_skipWhile_le (c : Cursor) (p : Char → Bool) :
    (c.skipWhile p).rest.length ≤ c.rest.length :=
  (List.dropWhile_suffix p).length_le

theorem length_advance (c : Cursor) (n : Nat) :
    (c.advance n).rest.length = c.rest.length - n :=
  List.length_drop

/-- A step within a line passes over a character. -/
theorem StepsInLine.length_lt {s s' : Lexing} {ts : List Token} (h : StepsInLine s ts s') :
    s'.cursor.rest.length < s.cursor.rest.length := by
  have hskip := length_skipWhile_le s.cursor isSpace
  cases h with
  | @comment cursor r hcursor hnext =>
    subst hcursor
    have hle : ((s.cursor.skipWhile isSpace).skipWhile (· != '\n')).rest.length ≤ r.length := by
      show (List.dropWhile _ (s.cursor.skipWhile isSpace).rest).length ≤ _
      rw [hnext, List.dropWhile_cons_of_pos (by decide)]
      exact (List.dropWhile_suffix _).length_le
    rw [hnext, List.length_cons] at hskip
    exact Nat.lt_of_le_of_lt hle hskip
  | newline hcursor hnext =>
    subst hcursor
    rw [hnext, List.length_cons] at hskip
    rw [length_advance, hnext, List.length_cons]
    omega
  | lineEnd hcursor hnext =>
    subst hcursor
    rw [hnext, List.length_cons] at hskip
    rw [length_advance, hnext, List.length_cons]
    omega
  | joined hcursor hnext =>
    subst hcursor
    rw [hnext, List.length_cons] at hskip
    rw [length_advance, hnext, List.length_cons]
    omega
  | lexeme hcursor hlexeme =>
    subst hcursor
    have hbounds := lexeme?_bounds hlexeme
    rw [length_advance]
    omega

theorem potential_lt {s s' : Lexing} {ts : List Token} (h : step? s = some (.go ts s')) :
    potential s' < potential s := by
  unfold potential
  rcases step?_cases h with ⟨hstart, hline⟩ | ⟨hstart, hline⟩
  · rw [hstart]
    cases hline with
    | @blank i c r cursor hmeasure _ hcursor =>
      obtain ⟨blank, hpasses, hrest⟩ := passes_measured hmeasure
      have hlength := hpasses.length_eq
      subst hcursor
      have hskip := length_skipWhile_le
        (s.cursor.advance (s.cursor.rest.length - (c :: r).length)) (· != '\n')
      rw [hrest] at hlength hskip
      rw [length_advance]
      dsimp only
      rw [hstart]
      rw [List.length_cons] at hlength hskip
      rw [List.length_cons]
      omega
    | inside hmeasure _ hcursor =>
      obtain ⟨blank, hpasses, -⟩ := passes_measured hmeasure
      have hlength := hpasses.length_eq
      subst hcursor
      dsimp only
      simp only [Bool.false_eq_true, if_false, if_true]
      omega
    | layout hmeasure _ hcursor =>
      obtain ⟨blank, hpasses, -⟩ := passes_measured hmeasure
      have hlength := hpasses.length_eq
      subst hcursor
      dsimp only
      simp only [Bool.false_eq_true, if_false, if_true]
      omega
  · have hlt := hline.length_lt
    rw [hstart]
    split
    · simp only [Bool.false_eq_true, if_false]
      omega
    · omega

/-- More steps than the potential make no difference. -/
theorem lexFrom?_eq_of_potential_lt {n m : Nat} {s : Lexing} (hn : potential s < n)
    (hm : potential s < m) : lexFrom? n s = lexFrom? m s := by
  induction n generalizing m s with
  | zero => exact absurd hn (Nat.not_lt_zero _)
  | succ n ih =>
    cases m with
    | zero => exact absurd hm (Nat.not_lt_zero _)
    | succ m =>
      rw [lexFrom?, lexFrom?]
      split
      · rfl
      · rfl
      next hstep =>
        have hlt := potential_lt hstep
        rw [ih (Nat.lt_of_lt_of_le hlt (Nat.le_of_lt_succ hn))
          (Nat.lt_of_lt_of_le hlt (Nat.le_of_lt_succ hm))]

/-- The lexer is given steps enough for the text. -/
theorem lexFrom?_eq_lexAt? {n : Nat} {p : Position} {t : Text} (hn : 2 * t.length + 1 < n) :
    lexFrom? n ⟨⟨t, p⟩, [⟨0, 0⟩], [], true⟩ = lexAt? p t :=
  lexFrom?_eq_of_potential_lt hn (Nat.lt_succ_of_lt (Nat.lt_succ_self _))

/-! ## The tokens of a text -/

theorem stop_of_step? {s : Lexing} {t : Token} (h : step? s = some (.stop t)) :
    t.text = [] ∧ t.kind = .finish ∧ ∃ c, Yields s.cursor [t] c := by
  unfold step? at h
  split at h
  · obtain ⟨_, -, heq⟩ := Option.map_eq_some_iff.1 h
    cases heq
  · unfold stepInLine? at h
    dsimp only at h
    split at h
    · split at h <;> cases h
      exact ⟨rfl, rfl, _, (Yields.layout _ [.finish]).of_passes (s.cursor.passes_skipWhile isSpace)⟩
    · cases h
    · split at h <;> cases h
    · split at h <;> cases h
    · obtain ⟨⟨k, l⟩, -, h⟩ := Option.bind_eq_some_iff.1 h
      dsimp only at h
      split at h
      · obtain ⟨_, -, h⟩ := Option.bind_eq_some_iff.1 h
        cases h
      · cases h

/-- The tokens stand one after another in what the cursor has left. -/
theorem yields_of_lexFrom? {n : Nat} {s : Lexing} {ts : List Token}
    (h : lexFrom? n s = some ts) : ∃ c, Yields s.cursor ts c := by
  induction n generalizing s ts with
  | zero => cases h
  | succ n ih =>
    rw [lexFrom?] at h
    split at h
    · cases h
    next token hstep =>
      cases h
      exact (stop_of_step? hstep).2.2
    next tokens next hstep =>
      obtain ⟨more, hmore, rfl⟩ := Option.map_eq_some_iff.1 h
      obtain ⟨c, hyields⟩ := ih hmore
      exact ⟨c, (yields_of_step? hstep).append hyields⟩

/-- Whether tokens of a kind are layout, which is written with nothing. -/
def isLayoutKind (k : TokenKind) : Bool :=
  k == .newline || k == .indent || k == .dedent || k == .finish

theorem isLayoutKind_of_layout? {levels levels' : List Indentation} {i : Indentation}
    {kinds : List TokenKind} (h : layout? levels i = some (kinds, levels')) :
    ∀ k ∈ kinds, isLayoutKind k = true := by
  unfold layout? at h
  split at h
  · cases h
  · split at h
    · split at h
      · cases h
        exact fun k hk => absurd hk List.not_mem_nil
      · cases h
    split at h
    · split at h
      · cases h
        intro k hk
        rw [List.mem_singleton.1 hk]
        rfl
      · cases h
    · split at h
      · split at h
        · cases h
          intro k hk
          rw [List.eq_of_mem_replicate hk]
          rfl
        · cases h
      · cases h

/-- Whether a token is the lexeme at the beginning of a text. -/
def IsLexeme (t : Token) : Prop := ∃ rest, lexeme? (t.text ++ rest) = some (t.kind, t.text.length)

theorem isLexeme_of_step? {s s' : Lexing} {ts : List Token}
    (h : step? s = some (.go ts s')) :
    ∀ t ∈ ts, isLayoutKind t.kind = true ∨ IsLexeme t := by
  rcases step?_cases h with ⟨-, hline⟩ | ⟨-, hline⟩
  · cases hline with
    | blank => exact fun t ht => absurd ht List.not_mem_nil
    | inside => exact fun t ht => absurd ht List.not_mem_nil
    | layout _ _ _ _ hlayout =>
      intro t ht
      obtain ⟨k, hk, rfl⟩ := List.mem_map.1 ht
      exact .inl (isLayoutKind_of_layout? hlayout k hk)
  · cases hline with
    | comment => exact fun t ht => absurd ht List.not_mem_nil
    | lineEnd => exact fun t ht => absurd ht List.not_mem_nil
    | joined => exact fun t ht => absurd ht List.not_mem_nil
    | newline =>
      intro t ht
      obtain rfl := List.mem_singleton.1 ht
      exact .inl rfl
    | @lexeme cursor k n _ _ hlexeme =>
      intro t ht
      obtain rfl := List.mem_singleton.1 ht
      have hbounds := lexeme?_bounds hlexeme
      refine .inr ⟨cursor.rest.drop n, ?_⟩
      rw [List.take_append_drop, hlexeme, List.length_take, Nat.min_eq_left hbounds.2]

/-- Tokens other than those of layout are lexemes. -/
theorem isLexeme_of_lexFrom? {n : Nat} {s : Lexing} {ts : List Token}
    (h : lexFrom? n s = some ts) : ∀ t ∈ ts, isLayoutKind t.kind = true ∨ IsLexeme t := by
  induction n generalizing s ts with
  | zero => cases h
  | succ n ih =>
    rw [lexFrom?] at h
    split at h
    · cases h
    next token hstep =>
      cases h
      intro t ht
      obtain rfl := List.mem_singleton.1 ht
      refine .inl ?_
      rw [(stop_of_step? hstep).2.1]
      rfl
    next tokens next hstep =>
      obtain ⟨more, hmore, rfl⟩ := Option.map_eq_some_iff.1 h
      intro t ht
      rcases List.mem_append.1 ht with ht | ht
      · exact isLexeme_of_step? hstep t ht
      · exact ih hmore t ht

end Token

end TextDomain
