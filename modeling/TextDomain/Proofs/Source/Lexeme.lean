import TextDomain.Source.Token

/-!
# Lexemes

A lexeme is the beginning of the text at which the lexer stands: what the
recognisers of pieces, numerals, names and signs take off the front, they take
off unchanged, and they never take nothing.

## Main results

* `splitPiece?_eq`, `splitNumeral?_extends` — a piece or numeral and what follows
  it are the text.
* `lexeme?_eq` — a lexeme is a part of the text, not empty, and does not end with
  a line break.
-/

namespace TextDomain

/-! ## Pieces of string literals -/

namespace Literal

/-- The quote of a piece. -/
def Piece.quote (p : Piece) : Text := List.replicate p.quoteWidth p.mark

/-- A piece as it is written. -/
def Piece.text (p : Piece) : Text := p.letters ++ p.quote ++ p.body ++ p.quote

theorem length_quote (p : Piece) : p.quote.length = p.quoteWidth := List.length_replicate

theorem length_text (p : Piece) :
    p.text.length = p.letters.length + p.body.length + 2 * p.quoteWidth := by
  simp only [Piece.text, List.length_append, length_quote]
  omega

theorem quoteWidth_pos (p : Piece) : 0 < p.quoteWidth := by
  unfold Piece.quoteWidth
  split <;> omega

theorem narrowBody?_eq {mark : Char} {t b r : Text} (h : narrowBody? mark t = some (b, r)) :
    t = b ++ mark :: r := by
  fun_induction narrowBody? mark t generalizing b r with
  | case1 => cases h
  | case2 c rest ih =>
    obtain ⟨⟨b', r'⟩, hbody, heq⟩ := Option.map_eq_some_iff.1 h
    cases heq
    rw [ih hbody]
    rfl
  | case3 rest => cases h; rfl
  | case4 rest => cases h
  | case5 c rest _ _ _ ih =>
    obtain ⟨⟨b', r'⟩, hbody, heq⟩ := Option.map_eq_some_iff.1 h
    cases heq
    rw [ih hbody]
    rfl

theorem eq_of_startsWith_two {a : Char} {t : Text} (h : Text.startsWith [a, a] t = true) :
    t = a :: a :: t.drop 2 := by
  obtain ⟨rest, heq⟩ := List.isPrefixOf_iff_prefix.1 h
  rw [← heq]
  rfl

theorem wideBody?_eq {mark : Char} {t b r : Text} (h : wideBody? mark t = some (b, r)) :
    t = b ++ mark :: mark :: mark :: r := by
  fun_induction wideBody? mark t generalizing b r with
  | case1 => cases h
  | case2 c rest ih =>
    obtain ⟨⟨b', r'⟩, hbody, heq⟩ := Option.map_eq_some_iff.1 h
    cases heq
    rw [ih hbody]
    rfl
  | case3 c rest _ hmark =>
    cases h
    obtain ⟨hc, hstarts⟩ := Bool.and_eq_true_iff.1 hmark
    have hc : c = mark := of_decide_eq_true hc
    rw [eq_of_startsWith_two hstarts, hc]
    rfl
  | case4 c rest _ _ ih =>
    obtain ⟨⟨b', r'⟩, hbody, heq⟩ := Option.map_eq_some_iff.1 h
    cases heq
    rw [ih hbody]
    rfl

/-- A piece and what follows it are the text. -/
theorem splitPiece?_eq {t r : Text} {p : Piece} (h : splitPiece? t = some (p, r)) :
    t = p.text ++ r := by
  unfold splitPiece? at h
  split at h
  next n _ =>
    have hbody : t.drop n = p.quote ++ p.body ++ p.quote ++ r ∧ p.letters = t.take n := by
      cases hdrop : t.drop n with
      | nil =>
        rw [hdrop] at h
        cases h
      | cons c rest =>
        rw [hdrop, quotedBody?] at h
        split at h
        next hstarts =>
          obtain ⟨⟨b, r'⟩, hwide, heq⟩ := Option.map_eq_some_iff.1 h
          cases heq
          refine ⟨?_, rfl⟩
          rw [eq_of_startsWith_two hstarts, wideBody?_eq hwide, Piece.quote, Piece.quoteWidth]
          simp [List.replicate]
        next =>
          obtain ⟨⟨b, r'⟩, hnarrow, heq⟩ := Option.map_eq_some_iff.1 h
          cases heq
          refine ⟨?_, rfl⟩
          rw [narrowBody?_eq hnarrow, Piece.quote, Piece.quoteWidth]
          simp
    rw [Piece.text, hbody.2]
    calc t = t.take n ++ t.drop n := (List.take_append_drop n t).symm
      _ = _ := by rw [hbody.1]; simp only [List.append_assoc]
  next => cases h

/-- What stands before the quote of a literal is letters that may. -/
theorem literalLetters?_eq_some {t : Text} {n : Nat} (h : literalLetters? t = some n) :
    isLetterGroup (t.take n) = true ∧ ∃ m rest, t.drop n = m :: rest ∧ isMark m = true := by
  have hnone : isLetterGroup [] = true := rfl
  unfold literalLetters? at h
  repeat' split at h
  all_goals cases h
  all_goals simp_all

/-- The quote of a piece consists of quote characters. -/
theorem splitPiece?_isMark {t r : Text} {p : Piece} (h : splitPiece? t = some (p, r)) :
    isMark p.mark = true := by
  unfold splitPiece? at h
  split at h
  next n hn =>
    obtain ⟨-, m, rest, hdrop, hm⟩ := literalLetters?_eq_some hn
    rw [hdrop, quotedBody?] at h
    split at h
    next =>
      obtain ⟨_, _, heq⟩ := Option.map_eq_some_iff.1 h
      cases heq
      exact hm
    next =>
      obtain ⟨_, _, heq⟩ := Option.map_eq_some_iff.1 h
      cases heq
      exact hm
  next => cases h

theorem getLast?_text (p : Piece) : p.text.getLast? = some p.mark := by
  have hwidth := quoteWidth_pos p
  rw [Piece.text, List.getLast?_append, Piece.quote, List.getLast?_replicate, if_neg (by omega)]
  rfl

end Literal

/-! ## Numerals -/

namespace Numeral

theorem digitTail?_eq {p : Char → Bool} {t d r : Text} (h : digitTail? p t = some (d, r)) :
    t = d ++ r := by
  fun_induction digitTail? p t generalizing d r with
  | case1 => cases h; rfl
  | case2 c rest _ ih =>
    obtain ⟨⟨d', r'⟩, htail, heq⟩ := Option.map_eq_some_iff.1 h
    cases heq
    rw [ih htail]
    rfl
  | case3 => cases h
  | case4 c rest _ _ ih =>
    obtain ⟨⟨d', r'⟩, htail, heq⟩ := Option.map_eq_some_iff.1 h
    cases heq
    rw [ih htail]
    rfl
  | case5 => cases h
  | case6 => cases h; rfl

/-- Digits hold no line break. -/
theorem digitTail?_no_break {p : Char → Bool} (hp : p '\n' = false) {t d r : Text}
    (h : digitTail? p t = some (d, r)) : '\n' ∉ d := by
  fun_induction digitTail? p t generalizing d r with
  | case1 => cases h; exact List.not_mem_nil
  | case2 c rest hc ih =>
    obtain ⟨⟨d', r'⟩, htail, heq⟩ := Option.map_eq_some_iff.1 h
    cases heq
    have hne : c ≠ '\n' := by rintro rfl; rw [hp] at hc; cases hc
    simp [hne.symm, ih htail]
  | case3 => cases h
  | case4 c rest _ hc ih =>
    obtain ⟨⟨d', r'⟩, htail, heq⟩ := Option.map_eq_some_iff.1 h
    cases heq
    have hne : c ≠ '\n' := by rintro rfl; rw [hp] at hc; cases hc
    simp [hne.symm, ih htail]
  | case5 => cases h
  | case6 => cases h; exact List.not_mem_nil

/-- A numeral begins with the digits read so far and goes on without a line
break, and the two texts after them are the same. -/
def Extends (digits rest d r : Text) : Prop :=
  ∃ more, d = digits ++ more ∧ rest = more ++ r ∧ '\n' ∉ more

theorem Extends.refl (digits rest : Text) : Extends digits rest digits rest :=
  ⟨[], (List.append_nil digits).symm, rfl, List.not_mem_nil⟩

/-- What extends more digits extends fewer. -/
theorem Extends.of_append {digits more rest rest' d r : Text} (heq : rest = more ++ rest')
    (hbreak : '\n' ∉ more) (h : Extends (digits ++ more) rest' d r) : Extends digits rest d r := by
  obtain ⟨last, rfl, rfl, hlast⟩ := h
  refine ⟨more ++ last, List.append_assoc .., by rw [heq, List.append_assoc], ?_⟩
  simp [hbreak, hlast]

theorem Extends.ne_nil {digits rest d r : Text} (h : Extends digits rest d r) (hne : digits ≠ []) :
    d ≠ [] := by
  obtain ⟨more, rfl, -, -⟩ := h
  simp [hne]

theorem finish?_extends {digits rest d r : Text} (h : finish? digits rest = some (d, r)) :
    Extends digits rest d r := by
  unfold finish? at h
  split at h
  · cases h
    exact .refl _ _
  · cases h

theorem imaginary?_extends {digits rest d r : Text} (h : imaginary? digits rest = some (d, r)) :
    Extends digits rest d r := by
  unfold imaginary? at h
  split at h
  next c after =>
    split at h
    next hc =>
      refine .of_append rfl ?_ (finish?_extends h)
      rcases hc with rfl | rfl <;> decide
    next => exact finish?_extends h
  next => exact finish?_extends h

theorem exponent?_extends {digits rest d r : Text} (h : exponent? digits rest = some (d, r)) :
    Extends digits rest d r := by
  unfold exponent? at h
  split at h
  next e after =>
    split at h
    next he =>
      have hletter : e ≠ '\n' := by rcases he with rfl | rfl <;> decide
      split at h
      next c more =>
        split at h
        next hc =>
          have hsign : c ≠ '\n' := by rcases hc with rfl | rfl <;> decide
          split at h
          next d' _ =>
            split at h
            · obtain ⟨⟨ds, r'⟩, htail, h⟩ := Option.bind_eq_some_iff.1 h
              refine .of_append ?_ ?_ (imaginary?_extends h)
              · rw [digitTail?_eq htail]
                rfl
              · simp [hletter.symm, hsign.symm, digitTail?_no_break rfl htail]
            · cases h
          next => cases h
        next =>
          split at h
          · obtain ⟨⟨ds, r'⟩, htail, h⟩ := Option.bind_eq_some_iff.1 h
            refine .of_append ?_ ?_ (imaginary?_extends h)
            · rw [digitTail?_eq htail]
              rfl
            · simp [hletter.symm, digitTail?_no_break rfl htail]
          · exact finish?_extends h
      next => exact finish?_extends h
    next => exact imaginary?_extends h
  next => exact finish?_extends h

theorem fraction?_extends {digits rest d r : Text} (h : fraction? digits rest = some (d, r)) :
    Extends digits rest d r := by
  unfold fraction? at h
  split at h
  next c _ =>
    split at h
    · obtain ⟨⟨ds, r'⟩, htail, h⟩ := Option.bind_eq_some_iff.1 h
      exact .of_append (digitTail?_eq htail) (digitTail?_no_break rfl htail) (exponent?_extends h)
    · exact exponent?_extends h
  next => exact exponent?_extends h

theorem digitTail?_ne_nil {p : Char → Bool} {c : Char} {t d r : Text} (hc : p c = true)
    (h : digitTail? p (c :: t) = some (d, r)) : d ≠ [] := by
  intro hd
  subst hd
  unfold digitTail? at h
  split at h
  next heq => cases heq
  next => split at h <;> simp at h
  next c' rest _ heq =>
    cases heq
    rw [if_pos hc] at h
    simp at h

theorem decimal?_extends {c : Char} {t d r : Text} (hc : c.isDigit = true)
    (h : decimal? (c :: t) = some (d, r)) : Extends [] (c :: t) d r ∧ d ≠ [] := by
  have hextends : ∀ {ds rest : Text}, digitTail? Char.isDigit (c :: t) = some (ds, rest) →
      Extends ds rest d r → Extends [] (c :: t) d r ∧ d ≠ [] := by
    intro ds rest htail hext
    exact ⟨.of_append (digitTail?_eq htail) (digitTail?_no_break rfl htail) hext,
      hext.ne_nil (digitTail?_ne_nil hc htail)⟩
  unfold decimal? at h
  obtain ⟨⟨ds, rest⟩, htail, h⟩ := Option.bind_eq_some_iff.1 h
  refine hextends htail ?_
  dsimp only at h
  split at h
  next after => exact .of_append rfl (by decide) (fraction?_extends h)
  next c' after _ =>
    split at h
    · exact imaginary?_extends h
    · obtain ⟨⟨digits, r'⟩, hexp, h⟩ := Option.bind_eq_some_iff.1 h
      dsimp only at h
      split at h
      · cases h
      · cases h
        exact exponent?_extends hexp
  next =>
    split at h
    · exact finish?_extends h
    · cases h

theorem based?_extends {letters t d r : Text} {p : Char → Bool} (hp : p '\n' = false)
    (h : based? letters p t = some (d, r)) : Extends letters t d r := by
  unfold based? at h
  split at h
  next under t' heq =>
    split at h
    next c rest =>
      split at h
      · obtain ⟨⟨ds, r'⟩, htail, h⟩ := Option.bind_eq_some_iff.1 h
        have hunder : t = under ++ (c :: rest) ∧ '\n' ∉ under := by
          split at heq <;> cases heq <;> exact ⟨rfl, by decide⟩
        refine .of_append ?_ ?_ ((List.append_assoc ..) ▸ finish?_extends h)
        · rw [hunder.1, digitTail?_eq htail, List.append_assoc]
        · simp [hunder.2, digitTail?_no_break hp htail]
      · cases h
    next => cases h

/-- A numeral and what follows it are the text; the numeral is not empty and
stays on its line. -/
theorem splitNumeral?_extends {t d r : Text} (ht : Token.startsNumeral t = true)
    (h : splitNumeral? t = some (d, r)) : Extends [] t d r ∧ d ≠ [] := by
  have hextends : ∀ {c : Char} {letters rest : Text}, '\n' ∉ c :: letters →
      Extends (c :: letters) rest d r → Extends [] (c :: letters ++ rest) d r ∧ d ≠ [] := by
    intro c letters rest hbreak hext
    exact ⟨.of_append rfl hbreak hext, hext.ne_nil (List.cons_ne_nil _ _)⟩
  unfold splitNumeral? at h
  split at h
  next rest => exact hextends (by decide) (fraction?_extends h)
  next c rest =>
    have hbase : ∀ {x y : Char}, x ≠ '\n' → y ≠ '\n' → c = x ∨ c = y → '\n' ∉ ['0', c] := by
      rintro x y hx hy (rfl | rfl)
      · simp [hx.symm]
      · simp [hy.symm]
    split at h
    next hc => exact hextends (hbase (by decide) (by decide) hc) (based?_extends (by decide) h)
    split at h
    next hc => exact hextends (hbase (by decide) (by decide) hc) (based?_extends (by decide) h)
    split at h
    next hc => exact hextends (hbase (by decide) (by decide) hc) (based?_extends (by decide) h)
    · exact decimal?_extends (by decide) h
  next hpoint _ =>
    cases t with
    | nil => cases ht
    | cons c rest =>
      refine decimal?_extends ?_ h
      unfold Token.startsNumeral at ht
      split at ht
      next rest' heq =>
        cases heq
        exact absurd rfl (hpoint _)
      next heq =>
        cases heq
        exact ht
      next heq => cases heq

end Numeral

/-! ## Signs and names -/

namespace Token

theorem sign?_prefix {t s : Text} (h : sign? t = some s) : s <+: t ∧ s ≠ [] := by
  have htake : ∀ {n : Nat} {signs : List Text}, [] ∉ signs → signs.contains (t.take n) = true →
      t.take n <+: t ∧ t.take n ≠ [] := by
    intro n signs hsigns hmem
    refine ⟨List.take_prefix _ _, fun hnil => hsigns ?_⟩
    rw [hnil] at hmem
    exact List.contains_iff_mem.1 hmem
  unfold sign? at h
  split at h
  next hmem => cases h; exact htake (by decide) hmem
  split at h
  next hmem => cases h; exact htake (by decide) hmem
  split at h
  · cases h
  split at h
  · split at h
    · cases h
      exact ⟨⟨_, rfl⟩, List.cons_ne_nil _ _⟩
    · cases h
  · cases h

theorem isNameChar_of_mayStartName {c : Char} (h : mayStartName c = true) :
    Numeral.isNameChar c = true := by
  unfold mayStartName at h
  unfold Numeral.isNameChar
  rw [h]
  rfl

/-- A sign holds no line break. -/
theorem sign?_no_break {t s : Text} (h : sign? t = some s) : '\n' ∉ s := by
  have htable : ∀ {signs : List Text}, (∀ s ∈ signs, '\n' ∉ s) → signs.contains s = true →
      '\n' ∉ s := fun hsigns hmem => hsigns s (List.contains_iff_mem.1 hmem)
  unfold sign? at h
  split at h
  next hmem => cases h; exact htable (by decide) hmem
  split at h
  next hmem => cases h; exact htable (by decide) hmem
  split at h
  · cases h
  split at h
  · split at h
    next hmem =>
      cases h
      have hbreak : '\n' ∉ signs₁ := by decide
      intro hsign
      rw [← List.mem_singleton.1 hsign] at hmem
      exact hbreak (List.contains_iff_mem.1 hmem)
    next => cases h
  · cases h

/-- A lexeme is a part of the text at its beginning. It is not empty, and it does
not end with a line break. -/
theorem lexeme?_eq {t : Text} {k : TokenKind} {n : Nat} (h : lexeme? t = some (k, n)) :
    ∃ l r, t = l ++ r ∧ n = l.length ∧ l ≠ [] ∧ l.getLast? ≠ some '\n' := by
  have hpart : ∀ {l r : Text}, t = l ++ r → l ≠ [] → '\n' ∉ l →
      ∃ l' r', t = l' ++ r' ∧ l.length = l'.length ∧ l' ≠ [] ∧ l'.getLast? ≠ some '\n' :=
    fun {l r} heq hl hbreak => ⟨l, r, heq, rfl, hl, fun hlast =>
      hbreak (List.mem_of_getLast? hlast)⟩
  unfold lexeme? at h
  split at h
  next =>
    obtain ⟨⟨p, r⟩, hpiece, heq⟩ := Option.map_eq_some_iff.1 h
    cases heq
    have htext := Literal.splitPiece?_eq hpiece
    have hlast := Literal.getLast?_text p
    refine ⟨p.text, r, htext, ?_, ?_, ?_⟩
    · rw [htext, List.length_append]
      omega
    · intro hnil
      rw [hnil] at hlast
      cases hlast
    · intro hbreak
      have hmark := Literal.splitPiece?_isMark hpiece
      rw [Option.some.inj (hlast.symm.trans hbreak)] at hmark
      exact absurd hmark (by decide)
  next =>
    split at h
    · cases h
    · split at h
      next hstart =>
        dsimp only at h
        split at h
        · cases h
          refine hpart (List.takeWhile_append_dropWhile (p := Numeral.isNameChar)).symm ?_ ?_
          · rw [List.takeWhile_cons_of_pos (isNameChar_of_mayStartName hstart)]
            exact List.cons_ne_nil _ _
          · intro hmem
            have hchar : Numeral.isNameChar '\n' = true :=
              List.all_eq_true.1 List.all_takeWhile _ hmem
            exact absurd hchar (by decide)
        · cases h
      split at h
      next hnumeral =>
        obtain ⟨⟨d, r⟩, hsplit, heq⟩ := Option.map_eq_some_iff.1 h
        cases heq
        obtain ⟨⟨_, rfl, htext, hbreak⟩, hne⟩ := Numeral.splitNumeral?_extends hnumeral hsplit
        exact hpart htext hne hbreak
      next =>
        obtain ⟨s, hsign, heq⟩ := Option.map_eq_some_iff.1 h
        cases heq
        obtain ⟨⟨r, heq⟩, hne⟩ := sign?_prefix hsign
        exact hpart heq.symm hne (sign?_no_break hsign)

/-- The lexeme of a string literal has two quotes. -/
theorem two_le_of_lexeme?_string {t : Text} {n : Nat} (h : lexeme? t = some (.string, n)) :
    2 ≤ n := by
  unfold lexeme? at h
  split at h
  next =>
    obtain ⟨⟨p, r⟩, hpiece, heq⟩ := Option.map_eq_some_iff.1 h
    have hlength := congrArg List.length (Literal.splitPiece?_eq hpiece)
    rw [List.length_append, Literal.length_text] at hlength
    have hquote := Literal.quoteWidth_pos p
    have hn : t.length - r.length = n := (Prod.mk.inj heq).2
    omega
  next =>
    split at h
    · cases h
    · split at h
      · dsimp only at h
        split at h <;> cases h
      split at h
      · obtain ⟨_, -, heq⟩ := Option.map_eq_some_iff.1 h
        cases heq
      · obtain ⟨_, -, heq⟩ := Option.map_eq_some_iff.1 h
        cases heq

/-- A lexeme is not empty and lies inside the text. -/
theorem lexeme?_bounds {t : Text} {k : TokenKind} {n : Nat} (h : lexeme? t = some (k, n)) :
    0 < n ∧ n ≤ t.length := by
  obtain ⟨l, r, heq, hn, hne, -⟩ := lexeme?_eq h
  rw [hn, heq, List.length_append]
  exact ⟨List.length_pos_iff.2 hne, Nat.le_add_right _ _⟩

end Token

end TextDomain
