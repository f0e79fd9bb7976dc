import TextDomain.Proofs.Rewriting.Lexer
import TextDomain.Proofs.Rewriting.Runs

/-!
# The tokens of a source with a literal written anew

In front of a literal the lexer finds the same tokens whatever the literal is, at the literal it
finds the pieces that it consists of, and behind it the same tokens again, moved. A lexer that
is given more steps than it needs finds nothing else, so the two halves can be put together.

## Main results

* `lexAt?_rewritten` — the tokens of a text in which a run of string tokens is one plain piece.
-/

namespace TextDomain

open Token

namespace Token

variable {s s' : Lexing} {ts us rest : List Token} {t : Token} {n m : Nat}

/-! ## Steps enough -/

theorem lexFrom?_mono (h : lexFrom? n s = some ts) (hle : n ≤ m) : lexFrom? m s = some ts := by
  induction n generalizing m s ts with
  | zero => cases h
  | succ n ih =>
    obtain ⟨m, rfl⟩ : ∃ k, m = k + 1 := ⟨m - 1, by omega⟩
    rw [lexFrom?] at h ⊢
    split at h
    next => cases h
    next => exact h
    next ts' s' _ =>
      obtain ⟨us, hrest, heq⟩ := Option.map_eq_some_iff.1 h
      rw [ih hrest (Nat.le_of_succ_le_succ hle)]
      exact congrArg some heq

/-- Whatever number of steps was enough, the lexer finds the same tokens. -/
theorem lexAt?_of_lexFrom? {p : Position} {text : Text}
    (h : lexFrom? n ⟨⟨text, p⟩, [⟨0, 0⟩], [], true⟩ = some ts) : lexAt? p text = some ts := by
  rw [← lexFrom?_eq_lexAt? (n := max n (2 * text.length + 2)) (by omega)]
  exact lexFrom?_mono h (Nat.le_max_left ..)

/-! ## Pieces side by side -/

theorem leaveLevels_zero {width : Nat} {levels left : List Indentation}
    (h : leaveLevels width levels = (0, left)) : left = levels := by
  cases levels with
  | nil =>
    cases h
    rfl
  | cons level outer =>
    rw [leaveLevels] at h
    split at h
    · cases h
    · cases h
      rfl

/-- An indentation that is not announced changes no level. -/
theorem levels_of_layout? {levels levels' : List Indentation} {i : Indentation}
    (h : layout? levels i = some ([], levels')) : levels' = levels := by
  unfold layout? at h
  split at h
  next => cases h
  next =>
    split at h
    · split at h
      · cases h
        rfl
      · cases h
    · split at h
      · split at h <;> cases h
      · split at h
        next n level outer hleave =>
          split at h
          · cases n with
            | zero =>
              cases h
              exact leaveLevels_zero hleave
            | succ n => cases h
          · cases h
        next => cases h

/-- A step without a token changes neither levels nor brackets. -/
theorem same_of_silent (h : step? s = some (.go [] s')) :
    s'.levels = s.levels ∧ s'.brackets = s.brackets := by
  have hts : ∀ {ts : List Token}, ts = [] → step? s = some (.go ts s') →
      s'.levels = s.levels ∧ s'.brackets = s.brackets := by
    intro ts hts h
    rcases step?_cases h with ⟨-, hline⟩ | ⟨-, hline⟩
    · cases hline with
      | blank | inside => exact ⟨rfl, rfl⟩
      | layout _ _ _ _ means =>
        rw [List.map_eq_nil_iff.1 hts] at means
        exact ⟨levels_of_layout? means, rfl⟩
    · cases hline with
      | comment | lineEnd | joined => exact ⟨rfl, rfl⟩
      | newline | lexeme => cases hts
  exact hts rfl h

/-- Behind pieces side by side the lexer is in the same line, with the same levels and
brackets. -/
theorem behind_run {run : List Token} (hne : run ≠ []) (hstrings : ∀ t ∈ run, t.kind = .string)
    (h : lexFrom? n s = some (run ++ rest)) :
    ∃ m s₂, lexFrom? m s₂ = some rest ∧ s₂.levels = s.levels ∧ s₂.brackets = s.brackets ∧
      s₂.atLineStart = false ∧ (∃ w, s.cursor.Passes w s₂.cursor) ∧
      ∀ last ∈ run.getLast?, last.extent.stop = s₂.cursor.position := by
  induction n generalizing s run with
  | zero => cases h
  | succ n ih =>
    obtain ⟨t, run, rfl⟩ := List.exists_cons_of_ne_nil hne
    have ht := hstrings t List.mem_cons_self
    obtain ⟨ts, s', us, m, hm, hstep, hrest, heq⟩ :=
      step?_of_lexFrom? (show lexFrom? (n + 1) s = some ([] ++ t :: (run ++ rest)) from h) ht
    obtain rfl := Nat.succ.inj hm
    obtain ⟨w, hpasses⟩ := (yields_of_step? hstep).passes
    rcases takes_string hstep ht heq with ⟨-, rfl, rfl⟩ | ⟨before', hnil, hus⟩
    · obtain ⟨-, hline, hextent, brackets, hbrackets, hs'⟩ :=
        lexeme_of_step? hstep (List.mem_singleton_self t) (by rw [ht]; rfl)
      have hsame : s'.levels = s.levels ∧ s'.brackets = s.brackets ∧ s'.atLineStart = false := by
        rw [hs']
        exact ⟨rfl, hbrackets (by rw [ht]; nofun), hline⟩
      obtain ⟨hlevels, hbrackets, hline⟩ := hsame
      by_cases hlast : run = []
      · subst hlast
        refine ⟨n, s', hrest, hlevels, hbrackets, hline, ⟨w, hpasses⟩, ?_⟩
        intro last hlast
        obtain rfl : t = last := Option.some.inj hlast
        rw [hextent]
      · obtain ⟨m, s₂, hread, hlevels₂, hbrackets₂, hline₂, ⟨w', hpasses'⟩, hstop⟩ :=
          ih hlast (fun u hu => hstrings u (List.mem_cons_of_mem t hu)) hrest
        refine ⟨m, s₂, hread, hlevels₂.trans hlevels, hbrackets₂.trans hbrackets, hline₂,
          ⟨_, hpasses.trans hpasses'⟩, fun last hlast' => hstop last ?_⟩
        obtain ⟨u, run, rfl⟩ := List.exists_cons_of_ne_nil hlast
        exact hlast'
    · obtain ⟨rfl, rfl⟩ := List.append_eq_nil_iff.1 hnil.symm
      obtain ⟨hlevels, hbrackets⟩ := same_of_silent hstep
      subst hus
      obtain ⟨m, s₂, hread, hlevels₂, hbrackets₂, hline₂, ⟨w', hpasses'⟩, hstop⟩ :=
        ih hne hstrings hrest
      exact ⟨m, s₂, hread, hlevels₂.trans hlevels, hbrackets₂.trans hbrackets, hline₂,
        ⟨_, hpasses.trans hpasses'⟩, hstop⟩

theorem rest_of_stop (h : step? s = some (.stop t)) : (s.cursor.skipWhile isSpace).rest = [] := by
  unfold step? at h
  split at h
  · obtain ⟨_, -, heq⟩ := Option.map_eq_some_iff.1 h
    cases heq
  · unfold stepInLine? at h
    dsimp only at h
    split at h
    next hrest => exact hrest
    next => cases h
    next => split at h <;> cases h
    next => split at h <;> cases h
    next =>
      obtain ⟨⟨k, l⟩, -, h⟩ := Option.bind_eq_some_iff.1 h
      dsimp only at h
      split at h
      · obtain ⟨_, -, h⟩ := Option.bind_eq_some_iff.1 h
        cases h
      · cases h

/-- Where no string token comes next, no quote does. -/
theorem not_isMark_of_lexFrom? (hline : s.atLineStart = false) (h : lexFrom? n s = some ts)
    (hnext : ¬ Rewriting.StringNext ts) :
    ∀ x ∈ s.cursor.rest.head?, Literal.isMark x = false := by
  intro x hx
  refine Bool.eq_false_iff.2 fun hmark => hnext ?_
  obtain ⟨r, hr⟩ : ∃ r, s.cursor.rest = x :: r := List.head?_eq_some_iff.1 hx
  have hskip : (s.cursor.skipWhile isSpace).rest = x :: r := by
    show s.cursor.rest.dropWhile isSpace = x :: r
    rw [hr, List.dropWhile_cons_of_neg]
    rcases Literal.isMark_cases hmark with rfl | rfl <;> decide
  have hfirst : ∀ {y : Char} {w : Text}, Literal.isMark y = false →
      (s.cursor.skipWhile isSpace).rest ≠ y :: w := by
    intro y w hy hw
    rw [hskip] at hw
    rw [(List.cons.inj hw).1, hy] at hmark
    cases hmark
  cases n with
  | zero => cases h
  | succ n =>
    rw [lexFrom?] at h
    split at h
    next => cases h
    next hstep =>
      rw [rest_of_stop hstep] at hskip
      cases hskip
    next us s' hstep =>
      obtain ⟨vs, -, rfl⟩ := Option.map_eq_some_iff.1 h
      rcases step?_cases hstep with ⟨hnot, -⟩ | ⟨-, hsteps⟩
      · rw [hline] at hnot
        cases hnot
      cases hsteps with
      | comment skip next => exact absurd (skip ▸ next) (hfirst (by decide))
      | newline skip next => exact absurd (skip ▸ next) (hfirst (by decide))
      | lineEnd skip next => exact absurd (skip ▸ next) (hfirst (by decide))
      | joined skip next => exact absurd (skip ▸ next) (hfirst (by decide))
      | lexeme skip lexeme =>
        subst skip
        have hletters := Literal.literalLetters?_eq (show Literal.isLetterGroup [] = true from rfl)
          hmark r
        rw [List.nil_append] at hletters
        rw [hskip, lexeme?_of_letters hletters] at lexeme
        obtain ⟨_, -, heq⟩ := Option.map_eq_some_iff.1 lexeme
        cases heq
        exact ⟨_, rfl, rfl⟩

end Token

namespace Rewriting

/-- If a literal is written anew, as a single piece, the tokens in front of it stay, and
those behind it are moved. -/
theorem lexAt?_rewritten {w : Rewriting} {origin : Position} {u lit new post : Text}
    {before run after : List Token} {piece : Literal.Piece}
    (hlex : lexAt? origin (u ++ (lit ++ post)) = some (before ++ (run ++ after)))
    (hne : run ≠ []) (hstrings : ∀ t ∈ run, t.kind = .string)
    (hbefore : ∀ t ∈ before.getLast?, t.kind ≠ .string) (hafter : ¬ StringNext after)
    (hstart : ∀ t ∈ run.head?, t.extent.start = origin.after u)
    (hstop : ∀ t ∈ run.getLast?, t.extent.stop = origin.after (u ++ lit))
    (hfirst : ∃ c ∈ lit.head?, ∃ c' ∈ new.head?, Swap c c')
    (hnew : ∀ v, (∀ x ∈ v.head?, Literal.isMark x = false) →
      Literal.splitPiece? (new ++ v) = some (piece, v))
    (hw : w.start = origin.after u) (hold : w.oldStop = origin.after (u ++ lit))
    (hnow : w.newStop = origin.after (u ++ new)) :
    lexAt? origin (u ++ (new ++ post)) =
      some (before ++ (⟨.string, new, ⟨w.start, w.newStop⟩⟩ :: after.map w.moved)) := by
  obtain ⟨c, hc, c', hc', hswap⟩ := hfirst
  obtain ⟨lit₀, rfl⟩ : ∃ l, lit = c :: l := List.head?_eq_some_iff.1 hc
  obtain ⟨new₀, hnew₀⟩ : ∃ l, new = c' :: l := List.head?_eq_some_iff.1 hc'
  obtain ⟨t, run, rfl⟩ := List.exists_cons_of_ne_nil hne
  obtain ⟨m, s₁, blank, q, hcursor, hblank, hq, hline, hread, hnext⟩ :=
    lexFrom?_swap (u := u) (r := lit₀ ++ post) hswap (new₀ ++ post) rfl hlex
      (hstrings t List.mem_cons_self) (hstart t rfl) hbefore
  obtain ⟨m₂, s₂, hread₂, hlevels, hbrackets, hline₂, ⟨x, hpasses⟩, hstop₂⟩ :=
    behind_run hne hstrings hread
  -- The lexer has passed over the literal, and nothing else.
  have hs₂ : s₂.cursor = ⟨post, w.oldStop⟩ := by
    obtain ⟨last, hlast⟩ : ∃ last, (t :: run).getLast? = some last :=
      ⟨_, List.getLast?_eq_some_getLast hne⟩
    have hposition : s₂.cursor.position = w.oldStop := by
      rw [hold, ← hstop last hlast, hstop₂ last hlast]
    rw [hcursor] at hpasses
    have hrest : blank ++ (c :: lit₀) ++ post = x ++ s₂.cursor.rest := by
      rw [← hpasses.rest]
      simp
    have hx : blank ++ (c :: lit₀) = x := by
      refine Position.eq_of_after_eq (p := q) hrest ?_
      rw [← hpasses.position, hposition, hold, Position.after_append, hq, Position.after_append]
    rw [hx] at hrest
    show Cursor.mk s₂.cursor.rest s₂.cursor.position = _
    rw [hposition, (List.append_cancel_left hrest).symm]
  have hpiece := hnew post fun y hy => not_isMark_of_lexFrom? hline₂ hread₂ hafter y (by rwa [hs₂])
  have htext : piece.text = new := by
    have h := Literal.splitPiece?_eq hpiece
    exact (List.append_cancel_right h).symm
  -- There it takes the new literal, and is in the state in which it was.
  have hskip : (Cursor.mk (blank ++ c' :: (new₀ ++ post)) q).skipWhile isSpace =
      ⟨new ++ post, w.start⟩ := by
    rw [Cursor.skipWhile_append (.inr fun y hy => by
      obtain rfl : c' = y := Option.some.inj hy
      exact (hswap.both (p := isSpace) (by decide)).2)]
    have htake : blank.takeWhile isSpace = blank := List.takeWhile_eq_self_iff.2 hblank
    have hdrop : blank.dropWhile isSpace = [] := List.dropWhile_eq_nil_iff.2 hblank
    rw [htake, hdrop, hq, hw, hnew₀]
    rfl
  have hlexeme : lexeme? (new ++ post) = some (.string, new.length) := by
    rw [lexeme?_of_splitPiece? hpiece, htext]
  have hafter_new : Cursor.advance ⟨new ++ post, w.start⟩ new.length = ⟨post, w.newStop⟩ := by
    rw [Cursor.advance, List.drop_left, List.take_left, hw, hnow, Position.after_append]
  have hstep : step? { s₁ with cursor := ⟨blank ++ c' :: (new₀ ++ post), q⟩ } =
      some (.go [⟨.string, new, ⟨w.start, w.newStop⟩⟩]
        { s₁ with cursor := ⟨post, w.newStop⟩ }) := by
    have hsteps := @StepsInLine.lexeme { s₁ with cursor := ⟨blank ++ c' :: (new₀ ++ post), q⟩ }
      _ _ _ s₁.brackets hskip.symm hlexeme rfl
    rw [hafter_new, List.take_left] at hsteps
    rw [step?, if_neg (by simp [hline])]
    exact hsteps.stepInLine?_eq
  have hmoved : w.movedState s₂ = { s₁ with cursor := ⟨post, w.newStop⟩ } := by
    rw [movedState, movedCursor, hs₂, shift_oldStop]
    obtain ⟨_, _, _, _⟩ := s₁
    obtain ⟨_, _, _, _⟩ := s₂
    cases hlevels
    cases hbrackets
    cases hline
    cases hline₂
    rfl
  have hrest : lexFrom? (m₂ + 1) { s₁ with cursor := ⟨blank ++ c' :: (new₀ ++ post), q⟩ } =
      some (⟨.string, new, ⟨w.start, w.newStop⟩⟩ :: after.map w.moved) := by
    have hbehind := lexFrom?_moved (w := w) (s := s₂) (by rw [hs₂]) m₂
    rw [hread₂, hmoved] at hbehind
    rw [lexFrom?, hstep]
    dsimp only
    rw [hbehind]
    rfl
  obtain ⟨k, hk⟩ := hnext _ _ hrest
  have hwhole : u ++ (new ++ post) = u ++ c' :: (new₀ ++ post) := by
    rw [hnew₀]
    rfl
  rw [hwhole]
  exact lexAt?_of_lexFrom? hk

end Rewriting

end TextDomain
