import TextDomain.Proofs.Literal.Reading
import TextDomain.Proofs.Source.Lexeme
import TextDomain.Text.Line

/-!
# Plain literals and their markers

A plain literal is a row of pieces that are neither bytes nor formatted, with
gaps between them in which nothing counts. `markersOf?` sees its text only: it
neither reads escapes nor knows where the first piece ends. What it does see
is enough. The letters at the beginning are those of the first piece, since a
quote follows them; and between two equal quotes any text without quotes,
backslashes and line breaks makes one piece that stands for itself, whatever
the literal was that the quotes come from.

## Main results

* `IsPlainLiteral.isPlainGroup` — the letters at the beginning of a plain
  literal are those of a plain piece.
* `markersOf?_eq` — where there are markers, the literal begins and ends with
  one quote.
* `Bare.denotes` — a bare text between two quotes is one piece with that value.
-/

namespace TextDomain

/-! ## Unified texts -/

namespace Text

/-- A character that ends no line is where it was. -/
theorem exists_cons_of_unifyTerminators {t u : Text} {c : Char}
    (h : unifyTerminators t = c :: u) (hc : c ≠ '\n') :
    ∃ rest : Text, t = c :: rest ∧ rest.unifyTerminators = u := by
  fun_cases unifyTerminators t with
  | case1 => simp [unifyTerminators] at h
  | case2 rest =>
    simp only [unifyTerminators, List.cons.injEq] at h
    exact absurd h.1.symm hc
  | case3 x rest hnot =>
    rw [unifyTerminators] at h
    · by_cases hx : x = '\r'
      · simp only [hx, ↓reduceIte, List.cons.injEq] at h
        exact absurd h.1.symm hc
      · simp only [hx, ↓reduceIte, List.cons.injEq] at h
        exact ⟨rest, by rw [h.1], h.2⟩
    · exact hnot

theorem exists_append_of_unifyTerminators {t u w : Text}
    (h : unifyTerminators t = w ++ u) (hw : '\n' ∉ w) :
    ∃ rest : Text, t = w ++ rest ∧ rest.unifyTerminators = u := by
  induction w generalizing t with
  | nil => exact ⟨t, rfl, h⟩
  | cons c w ih =>
    have hc : c ≠ '\n' := by rintro rfl; simp at hw
    have hmore : '\n' ∉ w := fun hmem => hw (List.mem_cons_of_mem _ hmem)
    obtain ⟨t', rfl, ht'⟩ := exists_cons_of_unifyTerminators h hc
    obtain ⟨rest, rfl, hrest⟩ := ih ht' hmore
    exact ⟨rest, rfl, hrest⟩

/-- A text without CR is unified. -/
theorem unifyTerminators_eq_self {t : Text} (h : '\r' ∉ t) : t.unifyTerminators = t := by
  fun_induction unifyTerminators t with
  | case1 => rfl
  | case2 rest ih => simp at h
  | case3 c rest hnot ih =>
    have hc : c ≠ '\r' := by rintro rfl; simp at h
    have hrest : '\r' ∉ rest := fun hmem => h (List.mem_cons_of_mem _ hmem)
    rw [if_neg hc, ih hrest]

end Text

namespace Literal

/-! ## Letters -/

/-- Whether letters may stand before a piece that is neither bytes nor
formatted. -/
def IsPlainGroup (letters : Text) : Prop := Text.lowerAscii letters ∈ [[], ['r'], ['u']]

instance (letters : Text) : Decidable (IsPlainGroup letters) :=
  inferInstanceAs (Decidable (_ ∈ _))

/-- A character has at most one capital. -/
theorem eq_or_eq_of_toLower_eq {c lower upper : Char} (h : c.toLower = lower)
    (hupper : upper.val = lower.val - ('a'.val - 'A'.val)) : c = lower ∨ c = upper := by
  unfold Char.toLower at h
  split at h
  next =>
    have hval := congrArg Char.val h
    have hc : c.val = upper.val := by
      rw [hupper, ← hval]
      exact (UInt32.add_sub_cancel _ _).symm
    exact .inr (Char.ext hc)
  next => exact .inl h

theorem IsPlainGroup.eq_nil_or_singleton {letters : Text} (h : IsPlainGroup letters) :
    letters = [] ∨ ∃ l, letters = [l] ∧ isMarkerLetter l = true := by
  match letters, h with
  | [], _ => exact .inl rfl
  | [l], h =>
    right
    have hlower : l.toLower = 'r' ∨ l.toLower = 'u' := by
      simpa [IsPlainGroup, Text.lowerAscii] using h
    refine ⟨l, rfl, ?_⟩
    rcases hlower with hlower | hlower
    · have hl : l = 'r' ∨ l = 'R' := eq_or_eq_of_toLower_eq hlower rfl
      rcases hl with rfl | rfl <;> rfl
    · have hl : l = 'u' ∨ l = 'U' := eq_or_eq_of_toLower_eq hlower rfl
      rcases hl with rfl | rfl <;> rfl
  | _ :: _ :: _, h => simp [IsPlainGroup, Text.lowerAscii] at h

theorem IsPlainGroup.isMarkerLetter_of_mem {letters : Text} (h : IsPlainGroup letters) {l : Char}
    (hl : l ∈ letters) : isMarkerLetter l = true := by
  rcases h.eq_nil_or_singleton with rfl | ⟨l', rfl, hl'⟩
  · simp at hl
  · obtain rfl := List.mem_singleton.1 hl
    exact hl'

/-! ## Plain pieces -/

/-- Whether a piece is neither bytes nor formatted. -/
def Piece.IsPlain (p : Piece) : Prop := p.isBytes = false ∧ p.isFormatted = false

instance (p : Piece) : Decidable p.IsPlain := inferInstanceAs (Decidable (_ ∧ _))

theorem Piece.hasLetter_eq_contains (p : Piece) (c : Char) :
    p.hasLetter c = (Text.lowerAscii p.letters).contains c := by
  rw [Piece.hasLetter, Text.lowerAscii, List.contains_eq_any_beq, List.any_map]
  congr
  funext l
  exact Bool.beq_comm

theorem Piece.isPlain_iff {p : Piece} (h : isLetterGroup p.letters = true) :
    p.IsPlain ↔ IsPlainGroup p.letters := by
  have hgroup : Text.lowerAscii p.letters ∈ letterGroups := by simpa [isLetterGroup] using h
  simp only [IsPlain, isBytes, isFormatted, hasLetter_eq_contains, IsPlainGroup]
  revert hgroup
  generalize Text.lowerAscii p.letters = letters
  simp only [letterGroups, List.mem_cons, List.not_mem_nil, or_false]
  rintro (rfl | rfl | rfl | rfl | rfl | rfl | rfl | rfl | rfl) <;> decide

theorem IsPlainGroup.isLetterGroup {letters : Text} (h : IsPlainGroup letters) :
    isLetterGroup letters = true := by
  have hsubset : [[], ['r'], ['u']] ⊆ letterGroups := by decide
  simpa [Literal.isLetterGroup] using hsubset h

theorem isMark_eq_false_of_isMarkerLetter {l : Char} (h : isMarkerLetter l = true) :
    isMark l = false := by
  simp only [isMarkerLetter, Bool.or_eq_true, beq_iff_eq] at h
  rcases h with ((rfl | rfl) | rfl) | rfl <;> rfl

/-- The letters of a plain piece are recognised in front of its quote. -/
theorem IsPlainGroup.literalLetters?_eq {letters : Text} (h : IsPlainGroup letters) {m : Char}
    (hm : isMark m = true) (rest : Text) :
    literalLetters? (letters ++ m :: rest) = some letters.length := by
  rcases h.eq_nil_or_singleton with rfl | ⟨l, rfl, hl⟩
  · match rest with
    | [] => simp [literalLetters?, hm]
    | [_] => simp [literalLetters?, hm]
    | _ :: _ :: _ => simp [literalLetters?, hm]
  · have hgroup := h.isLetterGroup
    have hmark := isMark_eq_false_of_isMarkerLetter hl
    match rest with
    | [] => simp [literalLetters?, hm, hgroup, hmark]
    | _ :: _ => simp [literalLetters?, hm, hgroup, hmark]

/-- In front of a plain piece stand its letters and a quote. -/
theorem splitPiece?_letters {t r : Text} {p : Piece} (h : splitPiece? t = some (p, r))
    (hplain : p.IsPlain) :
    ∃ m rest, t = p.letters ++ m :: rest ∧ isMark m = true ∧ IsPlainGroup p.letters := by
  unfold splitPiece? at h
  split at h
  next n hn =>
    obtain ⟨hgroup, m, rest, hdrop, hm⟩ := literalLetters?_eq_some hn
    have hletters : p.letters = t.take n := by
      rw [hdrop, quotedBody?] at h
      split at h
      next =>
        obtain ⟨_, _, heq⟩ := Option.map_eq_some_iff.1 h
        cases heq
        rfl
      next =>
        obtain ⟨_, _, heq⟩ := Option.map_eq_some_iff.1 h
        cases heq
        rfl
    have hplainGroup : IsPlainGroup p.letters := (Piece.isPlain_iff (hletters ▸ hgroup)).1 hplain
    exact ⟨m, rest, by rw [hletters, ← hdrop, List.take_append_drop], hm, hplainGroup⟩
  next => cases h

/-! ## Plain literals -/

/-- What may stand between two pieces of one literal: blanks, line breaks,
joined lines and comments. -/
inductive IsGap : Text → Prop where
  /-- Nothing. -/
  | nil : IsGap []
  /-- A blank. -/
  | blank {c : Char} {rest : Text} : Token.isSpace c = true → IsGap rest → IsGap (c :: rest)
  /-- A line break, inside brackets. -/
  | lineBreak {rest : Text} : IsGap rest → IsGap ('\n' :: rest)
  /-- A backslash that joins two lines. -/
  | joined {rest : Text} : IsGap rest → IsGap ('\\' :: '\n' :: rest)
  /-- A comment and the end of its line. -/
  | comment {words rest : Text} : '\n' ∉ words → IsGap rest →
      IsGap ('#' :: words ++ '\n' :: rest)

/-- The texts of string literals that are neither bytes nor formatted: plain
pieces with gaps between them. Lines end with LF. -/
inductive IsPlainLiteral : Text → Prop where
  /-- A single piece. -/
  | single {t : Text} {p : Piece} : splitPiece? t = some (p, []) → p.IsPlain → IsPlainLiteral t
  /-- A piece before others. -/
  | cons {t gap rest : Text} {p : Piece} : splitPiece? t = some (p, gap ++ rest) → p.IsPlain →
      IsGap gap → IsPlainLiteral rest → IsPlainLiteral t

/-- The letters at the beginning of a plain literal are those of its first
piece, also where lines do not end with LF. -/
theorem IsPlainLiteral.isPlainGroup {s : Text} (h : IsPlainLiteral (Text.unifyTerminators s)) :
    IsPlainGroup (s.takeWhile isMarkerLetter) := by
  obtain ⟨m, rest, letters, heq, hm, hgroup⟩ : ∃ m rest letters,
      Text.unifyTerminators s = letters ++ [m] ++ rest ∧ isMark m = true ∧
        IsPlainGroup letters := by
    cases h with
    | single hsplit hplain =>
      obtain ⟨m, rest, heq, hm, hgroup⟩ := splitPiece?_letters hsplit hplain
      exact ⟨m, rest, _, by simpa using heq, hm, hgroup⟩
    | cons hsplit hplain =>
      obtain ⟨m, rest, heq, hm, hgroup⟩ := splitPiece?_letters hsplit hplain
      exact ⟨m, rest, _, by simpa using heq, hm, hgroup⟩
  have hnotMark : isMarkerLetter m = false := by
    rcases Bool.or_eq_true_iff.1 hm with hm | hm <;> rw [eq_of_beq hm] <;> rfl
  have hnoBreak : '\n' ∉ letters ++ [m] := by
    intro hmem
    rcases List.mem_append.1 hmem with hmem | hmem
    · exact absurd (hgroup.isMarkerLetter_of_mem hmem) (by decide)
    · obtain rfl := List.mem_singleton.1 hmem
      exact absurd hm (by decide)
  obtain ⟨rest', rfl, -⟩ := Text.exists_append_of_unifyTerminators heq hnoBreak
  rw [List.append_assoc, List.takeWhile_append_of_pos fun l hl => hgroup.isMarkerLetter_of_mem hl,
    List.singleton_append, List.takeWhile_cons_of_neg (by simp [hnotMark]), List.append_nil]
  exact hgroup

/-! ## Markers -/

/-- Where there are markers, the literal begins and ends with one quote. -/
theorem markersOf?_eq {s : Text} {m : Markers} (h : markersOf? s = some m) :
    ∃ quote ∈ quotes, ∃ middle, s = s.takeWhile isMarkerLetter ++ quote ++ middle ++ quote ∧
      m = ⟨(s.takeWhile isMarkerLetter).length + quote.length, quote.length⟩ := by
  obtain ⟨letters, quote, body, hreads, hm⟩ := markersOf?_eq_some_iff.1 h
  rw [hreads.takeWhile_eq.1]
  refine ⟨quote, isQuote_iff.1 hreads.isQuote, body, ?_, hm⟩
  rw [List.append_assoc, List.append_assoc]
  exact hreads.source

/-! ## Bare texts -/

/-- Whether a text has no quotes, backslashes, line terminators and NULs. -/
def Bare (t : Text) : Prop := ∀ c ∈ t, c ∉ ['\'', '"', '\\', '\r', '\n', '\x00']

-- By name: a search may decide the statement by listing the characters instead.
instance (t : Text) : Decidable (Bare t) := List.decidableBAll _ t

/-- Whether a text is one plain piece, with the given value. -/
def Denotes (t value : Text) : Prop :=
  '\x00' ∉ t ∧ ∃ p, splitPiece? (Text.unifyTerminators t) = some (p, []) ∧ p.IsPlain ∧
    p.value? = some value

theorem exists_mark_of_mem_quotes {quote : Text} (h : quote ∈ quotes) :
    ∃ m wide, isMark m = true ∧ ∀ letters body, quote = (Piece.mk letters m wide body).quote := by
  simp only [quotes, List.mem_cons, List.not_mem_nil, or_false] at h
  rcases h with rfl | rfl | rfl | rfl
  · exact ⟨'\'', true, rfl, fun _ _ => rfl⟩
  · exact ⟨'"', true, rfl, fun _ _ => rfl⟩
  · exact ⟨'\'', false, rfl, fun _ _ => rfl⟩
  · exact ⟨'"', false, rfl, fun _ _ => rfl⟩

theorem isMark_cases {m : Char} (h : isMark m = true) : m = '\'' ∨ m = '"' := by
  simpa [isMark] using h

namespace Bare

variable {m c : Char} {t : Text}

theorem of_cons (h : Bare (c :: t)) : Bare t := fun x hx => h x (List.mem_cons_of_mem _ hx)

theorem ne_of_mem (h : Bare (c :: t)) {x : Char}
    (hx : x ∈ ['\'', '"', '\\', '\r', '\n', '\x00']) : c ≠ x := by
  rintro rfl
  exact h c (List.mem_cons_self ..) hx

theorem ne_mark (h : Bare (c :: t)) (hm : isMark m = true) : c ≠ m := by
  rcases isMark_cases hm with rfl | rfl <;> exact h.ne_of_mem (by decide)

theorem narrowBody?_eq (h : Bare t) (hm : isMark m = true) :
    narrowBody? m (t ++ [m]) = some (t, []) := by
  induction t with
  | nil => rcases isMark_cases hm with rfl | rfl <;> rfl
  | cons c t ih =>
    have hmark : c ≠ m := h.ne_mark hm
    have hslash : c ≠ '\\' := h.ne_of_mem (by decide)
    have hbreak : c ≠ '\n' := h.ne_of_mem (by decide)
    rw [List.cons_append, narrowBody?, if_neg hmark, if_neg hbreak, ih h.of_cons]
    · rfl
    · exact fun _ _ hc _ => hslash hc

theorem wideBody?_eq (h : Bare t) (hm : isMark m = true) :
    wideBody? m (t ++ [m, m, m]) = some (t, []) := by
  induction t with
  | nil => rcases isMark_cases hm with rfl | rfl <;> rfl
  | cons c t ih =>
    have hmark : c ≠ m := h.ne_mark hm
    have hslash : c ≠ '\\' := h.ne_of_mem (by decide)
    rw [List.cons_append, wideBody?, ih h.of_cons]
    · simp [hmark]
    · exact fun _ _ hc _ => hslash hc

theorem decode?_eq (h : Bare t) : decode? t = some t := by
  unfold decode?
  induction t with
  | nil => rfl
  | cons c t ih =>
    have hslash : c ≠ '\\' := h.ne_of_mem (by decide)
    rw [decodeAfter?, if_neg hslash, ih h.of_cons]
    rfl

theorem quotedBody?_eq (h : Bare t) (hm : isMark m = true) (letters : Text) (wide : Bool) :
    let p : Piece := ⟨letters, m, wide, t⟩
    quotedBody? letters (p.quote ++ t ++ p.quote) = some (p, []) := by
  cases wide with
  | true =>
    show quotedBody? letters (m :: m :: m :: (t ++ [m, m, m])) = _
    simp [quotedBody?, Text.startsWith, h.wideBody?_eq hm]
  | false =>
    have hnarrow : Text.startsWith [m, m] (t ++ [m]) = false := by
      cases t with
      | nil => simp [Text.startsWith]
      | cons c t =>
        have hmark : m ≠ c := (h.ne_mark hm).symm
        simp [Text.startsWith, List.isPrefixOf, hmark]
    show quotedBody? letters (m :: (t ++ [m])) = _
    simp [quotedBody?, hnarrow, h.narrowBody?_eq hm]

theorem value?_eq (h : Bare t) {p : Piece} (hp : p.body = t) : p.value? = some t := by
  rw [Piece.value?, hp]
  split
  · rfl
  · exact h.decode?_eq

/-- A bare text between two quotes, behind the letters of a plain piece, is one
piece with that value. -/
theorem denotes {letters quote : Text} (h : Bare t) (hletters : IsPlainGroup letters)
    (hquote : quote ∈ quotes) : Denotes (letters ++ quote ++ t ++ quote) t := by
  obtain ⟨m, wide, hm, hquote⟩ := exists_mark_of_mem_quotes hquote
  let p : Piece := ⟨letters, m, wide, t⟩
  have hclean : ∀ c, isMarkerLetter c = false → isMark c = false → c ∉ t →
      c ∉ letters ++ quote ++ t ++ quote := by
    intro c hletter hmark ht
    have hnotLetter : c ∉ letters := fun hmem => by
      simp [hletters.isMarkerLetter_of_mem hmem] at hletter
    have hnotQuote : c ∉ quote := fun hmem => by
      rw [hquote letters t, Piece.quote] at hmem
      rw [List.eq_of_mem_replicate hmem, hm] at hmark
      cases hmark
    simp [hnotLetter, hnotQuote, ht]
  have hreturn : '\r' ∉ letters ++ quote ++ t ++ quote :=
    hclean '\r' rfl rfl fun hmem => h '\r' hmem (by decide)
  have hnul : '\x00' ∉ letters ++ quote ++ t ++ quote :=
    hclean '\x00' rfl rfl fun hmem => h '\x00' hmem (by decide)
  have hsplit : splitPiece? (letters ++ quote ++ t ++ quote) = some (p, []) := by
    obtain ⟨rest, hrest⟩ : ∃ rest, p.quote ++ t ++ p.quote = m :: rest := by
      cases wide
      · exact ⟨_, rfl⟩
      · exact ⟨_, rfl⟩
    have hbody := h.quotedBody?_eq hm letters wide
    dsimp only at hbody
    have hshape : letters ++ quote ++ t ++ quote = letters ++ m :: rest := by
      rw [← hrest, hquote letters t]
      simp only [p, List.append_assoc]
    rw [hshape, splitPiece?, hletters.literalLetters?_eq hm rest]
    dsimp only
    rw [List.take_left, List.drop_left, ← hrest, hbody]
  have hgroup : isLetterGroup p.letters = true := hletters.isLetterGroup
  refine ⟨hnul, p, ?_, (Piece.isPlain_iff hgroup).2 hletters, h.value?_eq rfl⟩
  rw [Text.unifyTerminators_eq_self hreturn, hsplit]

end Bare

end Literal

end TextDomain
