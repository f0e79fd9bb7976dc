import TextDomain.Proofs.Source.Boundary
import TextDomain.Proofs.Source.Field
import TextDomain.Proofs.Source.Lexer
import TextDomain.Source.Grammar.Expression

/-!
# Where tokens stand

The tokens of a text come in the order in which they are written, and one with
a spelling begins before it ends. Its ends are positions of characters of the
text: the text ends with a line break, and no lexeme does.

A text can be looked at from any of its tokens on. What is then found behind the
beginning of a token lies behind that one.

A replacement field is read as a text of its own, with parentheses in the place
of its brace and of the character that ends it. These are as wide as what they
stand for, so the positions in that text are positions in the text around it.

## Main results

* `Lexed.runs` — tokens come in source order.
* `Lexed.inside_stop`, `Lexed.inside_start` — the ends of tokens are positions
  inside the text.
* `Lexed.inside_of_field` — positions in a replacement field are positions in
  the text.
-/

namespace TextDomain

namespace Token

/-! ## Tokens in order -/

/-- Tokens behind a position, one after another. -/
inductive Runs : Position → List Token → Prop where
  /-- No tokens. -/
  | nil {p : Position} : Runs p []
  /-- A token and those behind it. -/
  | cons {p : Position} {t : Token} {ts : List Token} (behind : p ≤ t.extent.start)
      (ends : t.extent.start ≤ t.extent.stop) (rest : Runs t.extent.stop ts) : Runs p (t :: ts)

theorem Runs.mono {p q : Position} {ts : List Token} (h : Runs q ts) (hle : p ≤ q) :
    Runs p ts := by
  cases h with
  | nil => exact .nil
  | cons behind ends rest => exact .cons (hle.trans behind) ends rest

/-- The last of the tokens behind a position are behind it too. -/
theorem Runs.of_suffix {p : Position} {ts ts' : List Token} (h : Runs p ts) (hsuffix : ts' <:+ ts) :
    Runs p ts' := by
  induction h with
  | nil =>
    rw [List.suffix_nil.1 hsuffix]
    exact .nil
  | @cons p t ts behind ends rest ih =>
    rcases List.suffix_cons_iff.1 hsuffix with rfl | hsuffix
    · exact .cons behind ends rest
    · exact (ih hsuffix).mono (behind.trans ends)

/-- Every token behind a position begins behind it. -/
theorem Runs.le_start {p : Position} {ts : List Token} (h : Runs p ts) {t : Token} (ht : t ∈ ts) :
    p ≤ t.extent.start := by
  obtain ⟨before, after, rfl⟩ := List.append_of_mem ht
  cases h.of_suffix (List.suffix_append before (t :: after)) with
  | cons behind => exact behind

theorem Yields.runs {c c' : Cursor} {ts : List Token} (h : Yields c ts c') :
    Runs c.position ts := by
  induction h with
  | nil => exact .nil
  | cons hpasses hstart htakes hstop _ ih =>
    refine .cons ?_ ?_ ?_
    · rw [hstart, hpasses.position]
      exact Position.le_after _ _
    · rw [hstart, hstop, htakes.position]
      exact Position.le_after _ _
    · rw [hstop]
      exact ih

/-- A token stands somewhere in what the cursor has left. -/
theorem Yields.exists_of_mem {c c' : Cursor} {ts : List Token} {t : Token} (h : Yields c ts c')
    (ht : t ∈ ts) : ∃ pre, pre ++ t.text <+: c.rest ∧ t.extent.start = c.position.after pre ∧
      t.extent.stop = c.position.after (pre ++ t.text) := by
  induction h with
  | nil => cases ht
  | @cons c c₁ c₂ c' before u ts hpasses hstart htakes hstop _ ih =>
    rcases List.mem_cons.1 ht with rfl | ht
    · refine ⟨before, ?_, ?_, ?_⟩
      · rw [hpasses.rest, htakes.rest]
        exact ⟨c₂.rest, by simp only [List.append_assoc]⟩
      · rw [hstart, hpasses.position]
      · rw [hstop, htakes.position, hpasses.position, Position.after_append]
    · obtain ⟨pre, hprefix, hstart', hstop'⟩ := ih ht
      refine ⟨before ++ u.text ++ pre, ?_, ?_, ?_⟩
      · rw [hpasses.rest, htakes.rest]
        simpa [List.append_assoc] using hprefix
      · rw [hstart', htakes.position, hpasses.position]
        simp only [Position.after_append]
      · rw [hstop', htakes.position, hpasses.position]
        simp only [Position.after_append]

/-! ## Lexed texts -/

/-- A text that was read as tokens, all of which or the last of which are looked at. Its
last line is ended. -/
structure Lexed where
  /-- The position of its first character. -/
  origin : Position
  /-- The text. -/
  text : Text
  /-- All its tokens. -/
  all : List Token
  /-- The tokens that are looked at. -/
  tokens : List Token
  lexed : lexAt? origin text = some all
  ended : text.getLast? = some '\n'
  suffix : tokens <:+ all

namespace Lexed

variable (l : Lexed)

/-- The position of a character of the text. -/
def Inside (p : Position) : Prop := ∃ pre, pre <+: l.text ∧ pre ≠ l.text ∧ p = l.origin.after pre

/-- The position lies behind the beginning of a token that is looked at. -/
def Behind (p : Position) : Prop := ∃ t ∈ l.tokens, t.extent.start ≤ p

/-- Tokens come in source order. -/
theorem runs : Runs l.origin l.tokens := by
  obtain ⟨c, hyields⟩ := yields_of_lexFrom? l.lexed
  exact hyields.runs.of_suffix l.suffix

/-- The same text, looked at from a later token on. -/
def onFrom {ts : List Token} (h : ts <:+ l.tokens) : Lexed :=
  { l with tokens := ts, suffix := h.trans l.suffix }

variable {l} {t : Token}

theorem inside_onFrom {ts : List Token} {h : ts <:+ l.tokens} {p : Position} :
    (l.onFrom h).Inside p ↔ l.Inside p := Iff.rfl

theorem Behind.of_onFrom {ts : List Token} {h : ts <:+ l.tokens} {p : Position}
    (hp : (l.onFrom h).Behind p) : l.Behind p := by
  obtain ⟨t, ht, hle⟩ := hp
  exact ⟨t, h.subset ht, hle⟩

theorem exists_before (ht : t ∈ l.tokens) :
    ∃ pre, pre ++ t.text <+: l.text ∧ t.extent.start = l.origin.after pre ∧
      t.extent.stop = l.origin.after (pre ++ t.text) := by
  obtain ⟨c, hyields⟩ := yields_of_lexFrom? l.lexed
  exact hyields.exists_of_mem (l.suffix.subset ht)

/-- A token that is not one of layout is written with something, which does not
end with a line break, and with two quotes at least if it is a string. -/
theorem spelled (ht : t ∈ l.tokens) (hkind : isLayoutKind t.kind = false) :
    t.text ≠ [] ∧ t.text.getLast? ≠ some '\n' ∧ (t.kind = .string → 2 ≤ t.text.length) := by
  rcases isLexeme_of_lexFrom? l.lexed t (l.suffix.subset ht) with hlayout | ⟨rest, hlexeme⟩
  · rw [hlayout] at hkind
    cases hkind
  · obtain ⟨lexeme, r, heq, hlength, hne, hlast⟩ := lexeme?_eq hlexeme
    obtain rfl : t.text = lexeme := (List.append_inj heq hlength).1
    refine ⟨hne, hlast, fun hstring => ?_⟩
    rw [hstring] at hlexeme
    exact two_le_of_lexeme?_string hlexeme

/-- A part of the text that does not end with a line break is not all of it. -/
theorem ne_text {pre w : Text} (hw : w ≠ []) (hlast : w.getLast? ≠ some '\n') :
    pre ++ w ≠ l.text := by
  intro heq
  have hended := l.ended
  rw [← heq, List.getLast?_append_of_ne_nil _ hw] at hended
  exact hlast hended

/-- A token that is not one of layout ends inside the text. -/
theorem inside_stop (ht : t ∈ l.tokens) (hkind : isLayoutKind t.kind = false) :
    l.Inside t.extent.stop := by
  obtain ⟨pre, hprefix, -, hstop⟩ := exists_before ht
  obtain ⟨hne, hlast, -⟩ := spelled ht hkind
  exact ⟨pre ++ t.text, hprefix, ne_text hne hlast, hstop⟩

/-- A token that is not one of layout ends behind its beginning. -/
theorem start_lt_stop (ht : t ∈ l.tokens) (hkind : isLayoutKind t.kind = false) :
    t.extent.start < t.extent.stop := by
  obtain ⟨pre, -, hstart, hstop⟩ := exists_before ht
  rw [hstart, hstop, Position.after_append]
  exact Position.lt_after (spelled ht hkind).1

/-- A token that begins before a position inside the text begins inside the
text. -/
theorem inside_start (ht : t ∈ l.tokens) {p : Position} (hp : l.Inside p)
    (hle : t.extent.start ≤ p) : l.Inside t.extent.start := by
  obtain ⟨pre, hprefix, hstart, -⟩ := exists_before ht
  refine ⟨pre, (List.prefix_append pre t.text).trans hprefix, ?_, hstart⟩
  rintro rfl
  obtain ⟨pre', ⟨more, hmore⟩, hproper, rfl⟩ := hp
  have hne : more ≠ [] := by
    rintro rfl
    exact hproper (by simpa using hmore)
  have hlt := Position.lt_after (p := l.origin.after pre') hne
  rw [← Position.after_append, hmore, ← hstart] at hlt
  exact absurd hle (not_le.2 hlt)

/-- A string has a character between its ends. -/
theorem exists_between (ht : t ∈ l.tokens) (hkind : t.kind = .string) :
    ∃ p, l.Inside p ∧ t.extent.start < p ∧ p < t.extent.stop := by
  obtain ⟨pre, ⟨more, hmore⟩, hstart, hstop⟩ := exists_before ht
  obtain ⟨-, -, hlength⟩ := spelled ht (by rw [hkind]; rfl)
  obtain ⟨a, b, w, hw⟩ : ∃ a b w, t.text = a :: b :: w := by
    match h : t.text, hlength hkind with
    | a :: b :: w, _ => exact ⟨a, b, w, rfl⟩
  refine ⟨l.origin.after (pre ++ [a]), ⟨pre ++ [a], ⟨b :: w ++ more, ?_⟩, ?_, rfl⟩, ?_, ?_⟩
  · rw [← hmore, hw]
    simp
  · intro heq
    have := congrArg List.length (heq.trans hmore.symm)
    simp [hw] at this
  · rw [hstart, Position.after_append]
    exact Position.lt_after (by simp)
  · have htext : pre ++ t.text = pre ++ [a] ++ (b :: w) := by rw [hw]; simp
    rw [hstop, htext, Position.after_append _ (pre ++ [a])]
    exact Position.lt_after (by simp)

/-! ## Replacement fields -/

/-- The position after a text does not change if a character becomes another of
the same width. -/
theorem after_cons_eq {a b : Char} (ha : a ≠ '\n') (hb : b ≠ '\n')
    (hwidth : Text.charWidth a = Text.charWidth b) (p : Position) (t : Text) :
    p.after (a :: t) = p.after (b :: t) := by
  show (p.next a).after t = (p.next b).after t
  rw [Position.next, Position.next, if_neg ha, if_neg hb, hwidth]

/-- The parentheses around the expression of a field stand in the place of its
brace and of the character that ends it. -/
theorem after_parenthesized {source pre : Text} {x : Char}
    (hx : Literal.Field.endsExpression x = true)
    (hpre : pre <+: '(' :: source ++ [')', '\n']) (hlength : pre.length ≤ source.length + 2)
    (p : Position) :
    ∃ pre', pre' <+: '{' :: source ++ [x] ∧ p.after pre = p.after pre' := by
  obtain ⟨rest, heq⟩ := hpre
  cases pre with
  | nil => exact ⟨[], List.nil_prefix, rfl⟩
  | cons c y =>
    obtain ⟨hc, htail⟩ := List.cons.inj heq
    subst hc
    have htail : y ++ rest = source ++ [')', '\n'] := htail
    have hopen : p.after ('(' :: y) = p.after ('{' :: y) :=
      after_cons_eq (by decide) (by decide) (by decide) p y
    have hy : y <+: source ∨ y = source ++ [')'] := by
      rcases Nat.lt_or_ge source.length y.length with hlt | hle
      · right
        rw [List.length_cons] at hlength
        have htake := congrArg (List.take (source.length + 1)) htail
        rw [List.take_left' (by omega)] at htake
        rw [htake, List.take_append, List.take_of_length_le (Nat.le_succ _),
          Nat.add_sub_cancel_left]
        rfl
      · left
        have htake := congrArg (List.take y.length) htail
        rw [List.take_left, List.take_append_of_le_length hle] at htake
        rw [htake]
        exact List.take_prefix _ _
    rcases hy with hy | rfl
    · refine ⟨'{' :: y, ?_, hopen⟩
      exact List.cons_prefix_cons.2 ⟨rfl, hy.trans (List.prefix_append _ _)⟩
    · refine ⟨'{' :: source ++ [x], List.prefix_refl _, ?_⟩
      have hend : x ≠ '\n' ∧ Text.charWidth ')' = Text.charWidth x := by
        simp only [Literal.Field.endsExpression, Bool.or_eq_true, beq_iff_eq] at hx
        rcases hx with ((rfl | rfl) | rfl) | rfl <;> exact ⟨by decide, by decide⟩
      show (p.next '(').after (source ++ [')']) = (p.next '{').after (source ++ [x])
      rw [Position.after_append, Position.after_append,
        after_cons_eq (by decide) hend.1 hend.2]
      rfl

/-- The expression of a field, read between parentheses. -/
def ofField (f : Literal.Field) {tokens : List Token}
    (h : lexAt? f.position ('(' :: f.source ++ [')', '\n']) = some tokens) : Lexed where
  origin := f.position
  text := '(' :: f.source ++ [')', '\n']
  all := tokens
  tokens := tokens
  lexed := h
  suffix := List.suffix_refl tokens
  ended := List.getLast?_append_of_ne_nil ('(' :: f.source) (List.cons_ne_nil _ _)

/-- The letters of a piece and its opening quote. -/
theorem take_opening {text : Text} {p : Literal.Piece} {r : Text}
    (hpiece : Literal.splitPiece? text = some (p, r)) :
    text.take (p.letters.length + p.quoteWidth) = p.letters ++ p.quote := by
  rw [Literal.splitPiece?_eq hpiece, Literal.Piece.text, List.append_assoc, List.append_assoc,
    List.append_assoc, ← List.append_assoc p.letters]
  refine List.take_left' ?_
  rw [List.length_append, Literal.length_quote]

/-- A field begins behind the beginning of the literal in which it stands. -/
theorem start_lt_of_field {p : Literal.Piece} {r : Text}
    (hpiece : Literal.splitPiece? t.text = some (p, r)) {fields : List Literal.Field}
    (hfields : Literal.fields? p.isRaw p.body
      (t.extent.start.after (t.text.take (p.letters.length + p.quoteWidth))) = some fields)
    {f : Literal.Field} (hf : f ∈ fields) : t.extent.start < f.position := by
  obtain ⟨pre₀, x, post, -, -, hposition⟩ := Literal.fieldLiesIn_of_fields? hfields f hf
  have hopening : p.letters ++ p.quote ≠ [] := by
    intro hnil
    have hwidth := Literal.quoteWidth_pos p
    have hquote := Literal.length_quote p
    rw [(List.append_eq_nil_iff.1 hnil).2, List.length_nil] at hquote
    omega
  dsimp only at hposition
  rw [hposition, take_opening hpiece]
  exact (Position.lt_after hopening).trans_le (Position.le_after _ pre₀)

/-- Positions in the expression of a field are positions in the text in which the
field stands. -/
theorem inside_of_field (ht : t ∈ l.tokens) {p : Literal.Piece} {r : Text}
    (hpiece : Literal.splitPiece? t.text = some (p, r)) {fields : List Literal.Field}
    (hfields : Literal.fields? p.isRaw p.body
      (t.extent.start.after (t.text.take (p.letters.length + p.quoteWidth))) = some fields)
    {f : Literal.Field} (hf : f ∈ fields) {tokens : List Token}
    (hlexed : lexAt? f.position ('(' :: f.source ++ [')', '\n']) = some tokens) {q : Position}
    (hq : (ofField f hlexed).Inside q) : l.Inside q := by
  obtain ⟨pre, hpre, hproper, rfl⟩ := hq
  have hshort : pre.length ≤ f.source.length + 2 := by
    have hlt := Nat.lt_of_le_of_ne hpre.length_le fun heq => hproper (hpre.eq_of_length heq)
    simp only [ofField, List.length_append, List.length_cons, List.length_nil] at hlt
    omega
  obtain ⟨pre₀, x, post, hbody, hx, hposition⟩ := Literal.fieldLiesIn_of_fields? hfields f hf
  dsimp only at hbody hposition
  obtain ⟨pre', ⟨more, hmore⟩, hafter⟩ := after_parenthesized hx hpre hshort f.position
  obtain ⟨before, ⟨behind, hbehind⟩, hstart, -⟩ := exists_before ht
  have htext : t.text = p.letters ++ p.quote ++ (p.body ++ (p.quote ++ r)) := by
    rw [Literal.splitPiece?_eq hpiece, Literal.Piece.text]
    simp only [List.append_assoc]
  have hfield : p.body = pre₀ ++ (pre' ++ more) ++ post := by
    rw [hbody, hmore]
    simp only [List.cons_append, List.append_assoc, List.nil_append]
  have hsplit : l.text = before ++ (p.letters ++ p.quote) ++ (pre₀ ++ pre') ++
      (more ++ post ++ (p.quote ++ r) ++ behind) := by
    rw [← hbehind, htext, hfield]
    simp only [List.append_assoc]
  refine ⟨before ++ (p.letters ++ p.quote) ++ (pre₀ ++ pre'), ⟨_, hsplit.symm⟩, ?_, ?_⟩
  · intro heq
    have hwidth := Literal.quoteWidth_pos p
    have hquote := Literal.length_quote p
    have hlength := congrArg List.length hsplit
    rw [← heq] at hlength
    simp only [List.length_append] at hlength
    omega
  · show f.position.after pre = _
    rw [hafter, hposition, take_opening hpiece, hstart]
    simp only [Position.after_append]

/-! ## Whole sources -/

/-- The tokens of a source stand in its text, whatever terminators it has. -/
theorem exists_of_lex? {source : Text} {tokens : List Token}
    (h : lex? source.unifyTerminators = some tokens) :
    ∃ l : Lexed, l.tokens = tokens ∧ l.origin = .origin ∧
      ∀ p, l.Inside p → ∃ i, p.StandsAt source i := by
  have hlast : (source.unifyTerminators ++ ['\n']).getLast? = some '\n' := by simp
  unfold lex? at h
  split at h
  next hended =>
    refine ⟨⟨_, _, tokens, tokens, h, hended, List.suffix_refl tokens⟩, rfl, rfl, ?_⟩
    rintro p ⟨pre, hpre, -, rfl⟩
    exact Position.exists_standsAt_of_unified hpre
  next =>
    refine ⟨⟨_, _, tokens, tokens, h, hlast, List.suffix_refl tokens⟩, rfl, rfl, ?_⟩
    rintro p ⟨pre, hpre, hproper, rfl⟩
    have hshorter : pre <+: source.unifyTerminators :=
      (List.prefix_concat_iff.1 hpre).resolve_left hproper
    exact Position.exists_standsAt_of_unified hshorter

end Lexed

end Token

end TextDomain
