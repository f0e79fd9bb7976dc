import TextDomain.Proofs.Literal.Plain

/-!
# What stands in front of a literal

A lexeme ends where the text goes on in a way in which it cannot, so what it is may depend
on the characters behind it. If it stands in front of a plain literal and this is written
anew, it stays the same. Nothing looks further than to the first character of the literal,
and this is a quote, or the same letter as before.

A numeral could be told from one that runs into a word by a few characters more. If a word
follows it, and the literal follows the word, then the literal begins with a quote.

## Main results

* `splitPiece?_append` — a piece does not depend on what stands behind the next character.
* `splitNumeral?_swap`, `lexeme?_swap` — a lexeme in front of a literal stays the same.
-/

namespace TextDomain

/-- The first characters of a plain literal and of what it becomes: a quote or a letter, and
the same one or a quote. -/
structure Swap (c c' : Char) : Prop where
  old : Literal.isMark c = true ∨ Literal.isMarkerLetter c = true
  new : c' = c ∨ Literal.isMark c' = true

/-! ## Characters -/

namespace Literal

theorem isMarkerLetter_cases {c : Char} (h : isMarkerLetter c = true) :
    c = 'r' ∨ c = 'R' ∨ c = 'u' ∨ c = 'U' := by
  simpa [isMarkerLetter, or_assoc] using h

end Literal

open Literal

/-- The characters with which a plain literal may begin. -/
def openers : List Char := ['\'', '"', 'r', 'R', 'u', 'U']

/-- What holds of none of the characters with which a literal may begin. -/
theorem Swap.both {c c' : Char} (h : Swap c c') {p : Char → Bool} (hp : openers.any p = false) :
    p c = false ∧ p c' = false := by
  have hnone : ∀ x ∈ openers, p x = false := fun x hx =>
    Bool.eq_false_iff.2 (List.any_eq_false.1 hp x hx)
  have hmark : ∀ x, isMark x = true → p x = false := by
    intro x hx
    rcases isMark_cases hx with rfl | rfl <;> exact hnone _ (by simp [openers])
  have hold : p c = false := by
    rcases h.old with hc | hc
    · exact hmark c hc
    · rcases isMarkerLetter_cases hc with rfl | rfl | rfl | rfl <;>
        exact hnone _ (by simp [openers])
  refine ⟨hold, ?_⟩
  rcases h.new with rfl | hc
  · exact hold
  · exact hmark c' hc

theorem Swap.ne {c c' x : Char} (h : Swap c c') (hx : openers.any (· == x) = false) :
    c ≠ x ∧ c' ≠ x := by
  simpa using h.both hx

theorem isNameChar_of_isMark {c : Char} (h : isMark c = true) : Numeral.isNameChar c = false := by
  rcases isMark_cases h with rfl | rfl <;> rfl

theorem isNameChar_of_isMarkerLetter {c : Char} (h : isMarkerLetter c = true) :
    Numeral.isNameChar c = true := by
  rcases isMarkerLetter_cases h with rfl | rfl | rfl | rfl <;> rfl

/-- If the literal begins with no letter, what it becomes does not either. -/
theorem Swap.marks {c c' : Char} (h : Swap c c') (hc : Numeral.isNameChar c = false) :
    isMark c = true ∧ isMark c' = true := by
  have hmark : isMark c = true := h.old.resolve_right fun hletter => by
    rw [isNameChar_of_isMarkerLetter hletter] at hc
    cases hc
  refine ⟨hmark, ?_⟩
  rcases h.new with rfl | hc'
  · exact hmark
  · exact hc'

/-! ## Pieces -/

namespace Literal

/-- Whether a character is one of the letters before a literal. -/
theorem isLetterGroup_chars {letters : Text} (h : isLetterGroup letters = true) :
    letters.length ≤ 2 ∧ ∀ c ∈ letters, Token.mayStartName c = true ∧ isMark c = false := by
  have hgroup : Text.lowerAscii letters ∈ letterGroups := by simpa [isLetterGroup] using h
  have hlength : (Text.lowerAscii letters).length = letters.length := List.length_map ..
  refine ⟨?_, fun c hc => ?_⟩
  · have hshort : ∀ g ∈ letterGroups, g.length ≤ 2 := by decide
    rw [← hlength]
    exact hshort _ hgroup
  · have hlower : c.toLower ∈ Text.lowerAscii letters := List.mem_map_of_mem hc
    have hletters : letterGroups.all (·.all (['r', 'u', 'b', 'f'].contains ·)) = true := by decide
    have hletter := List.all_eq_true.1 (List.all_eq_true.1 hletters _ hgroup) _ hlower
    have hletter : c.toLower = 'r' ∨ c.toLower = 'u' ∨ c.toLower = 'b' ∨ c.toLower = 'f' := by
      simpa using hletter
    rcases hletter with heq | heq | heq | heq
    · have hc : c = 'r' ∨ c = 'R' := eq_or_eq_of_toLower_eq heq rfl
      rcases hc with rfl | rfl <;> decide
    · have hc : c = 'u' ∨ c = 'U' := eq_or_eq_of_toLower_eq heq rfl
      rcases hc with rfl | rfl <;> decide
    · have hc : c = 'b' ∨ c = 'B' := eq_or_eq_of_toLower_eq heq rfl
      rcases hc with rfl | rfl <;> decide
    · have hc : c = 'f' ∨ c = 'F' := eq_or_eq_of_toLower_eq heq rfl
      rcases hc with rfl | rfl <;> decide

/-- Letters are recognised in front of a quote. -/
theorem literalLetters?_eq {letters : Text} (h : isLetterGroup letters = true) {m : Char}
    (hm : isMark m = true) (rest : Text) :
    literalLetters? (letters ++ m :: rest) = some letters.length := by
  obtain ⟨hlength, hchars⟩ := isLetterGroup_chars h
  match letters, hlength, hchars, rest with
  | [], _, _, [] => simp [literalLetters?, hm]
  | [], _, _, [_] => simp [literalLetters?, hm]
  | [], _, _, _ :: _ :: _ => simp [literalLetters?, hm]
  | [a], _, hchars, [] => simp [literalLetters?, hm, h, (hchars a (by simp)).2]
  | [a], _, hchars, _ :: _ => simp [literalLetters?, hm, h, (hchars a (by simp)).2]
  | [a, b], _, hchars, _ =>
    simp [literalLetters?, hm, h, (hchars a (by simp)).2, (hchars b (by simp)).2]

variable {m : Char} {t b r r' : Text}

theorem narrowBody?_append (hm : isMark m = true) (h : narrowBody? m t = some (b, r))
    (r' : Text) : narrowBody? m (b ++ m :: r') = some (b, r') := by
  have hslash : m ≠ '\\' := by rcases isMark_cases hm with rfl | rfl <;> decide
  fun_induction narrowBody? m t generalizing b r with
  | case1 => cases h
  | case2 c rest ih =>
    obtain ⟨⟨b', r₁⟩, hbody, heq⟩ := Option.map_eq_some_iff.1 h
    cases heq
    simp [narrowBody?, ih hbody]
  | case3 rest =>
    cases h
    rw [List.nil_append, narrowBody?, if_pos rfl]
    exact fun _ _ hm' _ => hslash hm'
  | case4 rest => cases h
  | case5 c rest hnot hmark hbreak ih =>
    obtain ⟨⟨b', r₁⟩, hbody, heq⟩ := Option.map_eq_some_iff.1 h
    cases heq
    have hc : c ≠ '\\' := by
      rintro rfl
      cases rest with
      | nil => cases hbody
      | cons x rest => exact hnot x rest rfl rfl
    rw [List.cons_append, narrowBody?, if_neg hmark, if_neg hbreak, ih hbody]
    · rfl
    · exact fun _ _ hc' _ => hc hc'

theorem startsWith_two_append {x : Char} {u v v' : Text} (hu : 2 ≤ u.length) :
    Text.startsWith [x, x] (u ++ v) = Text.startsWith [x, x] (u ++ v') := by
  match u, hu with
  | _ :: _ :: _, _ => simp [Text.startsWith, List.isPrefixOf]

theorem wideBody?_append (hm : isMark m = true) (h : wideBody? m t = some (b, r)) (r' : Text) :
    wideBody? m (b ++ m :: m :: m :: r') = some (b, r') := by
  have hslash : m ≠ '\\' := by rcases isMark_cases hm with rfl | rfl <;> decide
  fun_induction wideBody? m t generalizing b r with
  | case1 => cases h
  | case2 c rest ih =>
    obtain ⟨⟨b', r₁⟩, hbody, heq⟩ := Option.map_eq_some_iff.1 h
    cases heq
    simp [wideBody?, ih hbody]
  | case3 c rest _ hmark =>
    cases h
    rw [List.nil_append, wideBody?]
    · simp [Text.startsWith, List.isPrefixOf]
    · exact fun _ _ hm' _ => hslash hm'
  | case4 c rest hnot hmark ih =>
    obtain ⟨⟨b', r₁⟩, hbody, heq⟩ := Option.map_eq_some_iff.1 h
    cases heq
    have hc : c ≠ '\\' := by
      rintro rfl
      cases rest with
      | nil => cases hbody
      | cons x rest => exact hnot x rest rfl rfl
    have hlook : Text.startsWith [m, m] (b' ++ m :: m :: m :: r') =
          Text.startsWith [m, m] rest := by
      have hlong : 2 ≤ (b' ++ [m, m, m]).length := by simp
      have hsame : Text.startsWith [m, m] (b' ++ [m, m, m] ++ r') =
          Text.startsWith [m, m] (b' ++ [m, m, m] ++ r) := startsWith_two_append hlong
      rw [wideBody?_eq hbody]
      simpa using hsame
    rw [List.cons_append, wideBody?, hlook, if_neg hmark, ih hbody]
    · rfl
    · exact fun _ _ hc' _ => hc hc'

/-- Whether a quote comes next again is all that the body of a piece could depend on. -/
theorem startsWith_two_behind {x : Char} (hr : (r.head? == some x) = (r'.head? == some x)) :
    Text.startsWith [x, x] (b ++ x :: r) = Text.startsWith [x, x] (b ++ x :: r') := by
  have hone : ∀ r : Text, Text.startsWith [x, x] (x :: r) = (r.head? == some x) := by
    intro r
    cases r with
    | nil => simp [Text.startsWith, List.isPrefixOf]
    | cons y r =>
      have hcomm : (x == y) = (y == x) := BEq.comm
      simp [Text.startsWith, List.isPrefixOf, hcomm]
  rcases b with _ | ⟨y, _ | ⟨z, b⟩⟩
  · rw [List.nil_append, List.nil_append, hone, hone, hr]
  · simp [Text.startsWith, List.isPrefixOf]
  · simp [Text.startsWith, List.isPrefixOf]

theorem quotedBody?_append {letters : Text} {p : Piece} {c : Char} {rest : Text}
    (hc : isMark c = true) (h : quotedBody? letters (c :: rest) = some (p, r))
    (hr : (r.head? == some p.mark) = (r'.head? == some p.mark)) :
    p.letters = letters ∧
      quotedBody? letters (p.quote ++ p.body ++ p.quote ++ r') = some (p, r') := by
  rw [quotedBody?] at h
  split at h
  next hstarts =>
    obtain ⟨⟨b, r⟩, hwide, heq⟩ := Option.map_eq_some_iff.1 h
    cases heq
    have hread := wideBody?_append hc hwide r'
    refine ⟨rfl, ?_⟩
    show quotedBody? letters (c :: ([c, c] ++ b ++ [c, c, c] ++ r')) = _
    rw [quotedBody?, if_pos (by simp [Text.startsWith, List.isPrefixOf])]
    have hdrop : ([c, c] ++ b ++ [c, c, c] ++ r').drop 2 = b ++ c :: c :: c :: r' := by simp
    rw [hdrop, hread]
    rfl
  next hstarts =>
    obtain ⟨⟨b, r⟩, hnarrow, heq⟩ := Option.map_eq_some_iff.1 h
    cases heq
    rw [narrowBody?_eq hnarrow, startsWith_two_behind hr] at hstarts
    have hshape : [c] ++ b ++ [c] ++ r' = c :: (b ++ c :: r') := by simp
    refine ⟨rfl, ?_⟩
    show quotedBody? letters ([c] ++ b ++ [c] ++ r') = _
    rw [hshape, quotedBody?, if_neg hstarts, narrowBody?_append hc hnarrow r']
    rfl

/-- A piece does not depend on what stands behind it, unless that begins with its quote. -/
theorem splitPiece?_append {p : Piece} (h : splitPiece? t = some (p, r))
    (hr : (r.head? == some p.mark) = (r'.head? == some p.mark)) :
    splitPiece? (p.text ++ r') = some (p, r') := by
  have hm := splitPiece?_isMark h
  unfold splitPiece? at h
  split at h
  next n hn =>
    obtain ⟨hgroup, c, rest, hdrop, hc⟩ := literalLetters?_eq_some hn
    rw [hdrop] at h
    obtain ⟨hletters, hread⟩ := quotedBody?_append hc h hr
    rw [← hletters] at hgroup hread
    have hshape : p.text ++ r' = p.letters ++ (p.quote ++ p.body ++ p.quote ++ r') := by
      simp only [Piece.text, List.append_assoc]
    have hmark : ∃ rest, p.quote ++ p.body ++ p.quote ++ r' = p.mark :: rest := by
      obtain ⟨k, hk⟩ := Nat.exists_eq_add_of_lt (quoteWidth_pos p)
      rw [Piece.quote, hk]
      exact ⟨_, rfl⟩
    obtain ⟨rest', hrest'⟩ := hmark
    rw [hshape, splitPiece?]
    rw [hrest'] at hread ⊢
    rw [literalLetters?_eq hgroup hm]
    dsimp only
    rw [List.take_left, List.drop_left, hread]
  next => cases h

end Literal

/-! ## Numerals -/

namespace Numeral

variable {c c' : Char} {r r' : Text}

/-- The words that may follow a numeral at once. -/
def wordsAfter : List Text :=
  [['a', 'n', 'd'], ['e', 'l', 's', 'e'], ['f', 'o', 'r'], ['o', 'r'], ['n', 'o', 't'],
    ['i', 'f'], ['i', 'n'], ['i', 's']]

theorem mayEndBefore_cons (x : Char) (t : Text) :
    mayEndBefore (x :: t) = (wordsAfter.any (Text.startsWith · (x :: t)) || !isNameChar x) := by
  by_cases hx : x = 'i'
  · subst hx
    have hname : isNameChar 'i' = true := rfl
    cases t with
    | nil => rfl
    | cons y t =>
      have hcomm : ∀ a : Char, (a == y) = (y == a) := fun _ => BEq.comm
      simp [mayEndBefore, wordsAfter, Text.startsWith, List.isPrefixOf, hname, hcomm,
        Bool.or_assoc]
  · have hi : ('i' == x) = false := beq_false_of_ne (Ne.symm hx)
    rw [mayEndBefore]
    · simp [wordsAfter, Text.startsWith, List.isPrefixOf, hi]
    · exact fun _ _ heq _ => hx heq

/-- A word goes on in front of a literal only if the literal begins with a letter. -/
def Ends (v : Text) (c : Char) : Prop := (∃ x ∈ v, isNameChar x = false) ∨ isNameChar c = false

theorem startsWith_append {word v : Text} (hword : ∀ x ∈ word, isNameChar x = true)
    (h : Ends v c) : Text.startsWith word (v ++ c :: r) = Text.startsWith word v := by
  induction word generalizing v with
  | nil => rfl
  | cons a word ih =>
    obtain ⟨ha, hword⟩ := List.forall_mem_cons.1 hword
    cases v with
    | nil =>
      have hc : isNameChar c = false := h.resolve_left (by simp)
      have hne : (a == c) = false := beq_false_of_ne fun heq => by
        rw [heq, hc] at ha
        cases ha
      simp [Text.startsWith, List.isPrefixOf, hne]
    | cons x v =>
      by_cases hx : a = x
      · subst hx
        have hends : Ends v c := by
          rcases h with ⟨y, hy, hnot⟩ | hc
          · rcases List.mem_cons.1 hy with rfl | hy
            · rw [ha] at hnot
              cases hnot
            · exact .inl ⟨y, hy, hnot⟩
          · exact .inr hc
        have hsame := ih hword hends
        simpa [Text.startsWith, List.isPrefixOf] using hsame
      · have hne : (a == x) = false := beq_false_of_ne hx
        simp [Text.startsWith, List.isPrefixOf, hne]

theorem Ends.swap {v : Text} (h : Ends v c) (hc : Swap c c') : Ends v c' :=
  h.imp_right fun hname => isNameChar_of_isMark (hc.marks hname).2

theorem wordsAfter_first {x : Char} (hx : (['a', 'e', 'f', 'o', 'n', 'i'].contains x) = false)
    (t : Text) : wordsAfter.any (Text.startsWith · (x :: t)) = false := by
  simp only [List.contains_cons, List.contains_nil, Bool.or_false, Bool.or_eq_false_iff] at hx
  have hcomm : ∀ a : Char, (a == x) = (x == a) := fun _ => BEq.comm
  simp [wordsAfter, Text.startsWith, List.isPrefixOf, hcomm, hx]

/-- No word that may follow a numeral begins as a literal may. -/
theorem wordsAfter_swap (hc : Swap c c') (t t' : Text) :
    wordsAfter.any (Text.startsWith · (c :: t)) = false ∧
      wordsAfter.any (Text.startsWith · (c' :: t')) = false := by
  obtain ⟨hold, hnew⟩ := hc.both (p := (['a', 'e', 'f', 'o', 'n', 'i'].contains ·)) (by decide)
  exact ⟨wordsAfter_first hold t, wordsAfter_first hnew t'⟩

/-- Whether a word may begin here. -/
def StartsWord (v : Text) : Prop := ∃ x ∈ v.head?, Token.mayStartName x = true

/-- Whether a numeral may end does not depend on the literal, unless a word follows that ends
with the beginning of the literal. -/
theorem mayEndBefore_swap (hc : Swap c c') {v : Text} (hends : StartsWord v → Ends v c)
    (h : mayEndBefore (v ++ c :: r) = true) : mayEndBefore (v ++ c' :: r') = true := by
  cases v with
  | nil =>
    obtain ⟨hold, hnew⟩ := wordsAfter_swap hc r r'
    rw [List.nil_append, mayEndBefore_cons, hold, Bool.false_or, Bool.not_eq_true'] at h
    rw [List.nil_append, mayEndBefore_cons, isNameChar_of_isMark (hc.marks h).2]
    exact Bool.or_true _
  | cons x v =>
    rw [List.cons_append, mayEndBefore_cons] at h ⊢
    by_cases hx : Token.mayStartName x = true
    · have hwords : wordsAfter.all (·.all isNameChar) = true := by decide
      have hsame : ∀ {c : Char} {r : Text}, Ends (x :: v) c →
          wordsAfter.any (Text.startsWith · (x :: (v ++ c :: r))) =
            wordsAfter.any (Text.startsWith · (x :: v)) := by
        intro c r h
        rw [Bool.eq_iff_iff, List.any_eq_true, List.any_eq_true]
        refine exists_congr fun word => and_congr_right fun hword => ?_
        rw [← List.cons_append, startsWith_append
          (List.all_eq_true.1 (List.all_eq_true.1 hwords word hword)) h]
      have hends := hends ⟨x, rfl, hx⟩
      rw [hsame (hends.swap hc)]
      rwa [hsame hends] at h
    · have hnot : ∀ t, wordsAfter.any (Text.startsWith · (x :: t)) = false := fun t =>
        wordsAfter_first (Bool.eq_false_iff.2 fun hmem => hx (by
          have hstart : ['a', 'e', 'f', 'o', 'n', 'i'].all Token.mayStartName = true := by decide
          exact List.all_eq_true.1 hstart x (List.contains_iff_mem.1 hmem))) t
      rw [hnot] at h ⊢
      exact h

theorem digitTail?_cons (p : Char → Bool) {x : Char} (hx : x ≠ '_') (t : Text) :
    digitTail? p (x :: t) =
      if p x then (digitTail? p t).map fun (d, r) => (x :: d, r) else some ([], x :: t) := by
  rw [digitTail?]
  · rw [if_neg hx]
  · exact fun _ _ heq _ => hx heq

/-- Digits end in front of a literal at the latest. -/
theorem digitTail?_swap (hc : Swap c c') {p : Char → Bool}
    (hp : openers.any p = false) {v d t : Text}
    (h : digitTail? p (v ++ c :: r) = some (d, t)) :
    ∃ v₁, t = v₁ ++ c :: r ∧ digitTail? p (v ++ c' :: r') = some (d, v₁ ++ c' :: r') := by
  obtain ⟨hold, hnew⟩ := hc.both hp
  obtain ⟨hunder, hunder'⟩ := hc.ne (x := '_') (by decide)
  generalize heq : v ++ c :: r = u at h
  fun_induction digitTail? p u generalizing v d t with
  | case1 => simp at heq
  | case2 x rest hx ih =>
    obtain ⟨⟨d₁, t₁⟩, htail, hd⟩ := Option.map_eq_some_iff.1 h
    cases hd
    rcases List.append_eq_cons_iff.1 heq with ⟨rfl, hcons⟩ | ⟨v₂, rfl, hcons⟩
    · exact absurd (List.cons.inj hcons).1 hunder
    rcases List.append_eq_cons_iff.1 hcons.symm with ⟨rfl, hlast⟩ | ⟨v₃, rfl, hlast⟩
    · rw [(List.cons.inj hlast).1, hx] at hold
      cases hold
    obtain ⟨v₁, rfl, hread⟩ := ih hlast.symm htail
    refine ⟨v₁, rfl, ?_⟩
    simp [digitTail?, hx, hread]
  | case3 => cases h
  | case4 x rest hnot hx ih =>
    obtain ⟨⟨d₁, t₁⟩, htail, hd⟩ := Option.map_eq_some_iff.1 h
    cases hd
    rcases List.append_eq_cons_iff.1 heq with ⟨rfl, hcons⟩ | ⟨v₂, rfl, hcons⟩
    · rw [(List.cons.inj hcons).1, hx] at hold
      cases hold
    obtain ⟨v₁, rfl, hread⟩ := ih hcons.symm htail
    refine ⟨v₁, rfl, ?_⟩
    have hne : x ≠ '_' := by
      rintro rfl
      cases v₂ with
      | nil => exact hnot c r rfl hcons
      | cons y v₂ => exact hnot y (v₂ ++ c :: r) rfl hcons
    rw [List.cons_append, digitTail?_cons p hne, if_pos hx, hread]
    rfl
  | case5 => cases h
  | case6 x rest hnot hx hline =>
    cases h
    refine ⟨v, heq.symm, ?_⟩
    cases v with
    | nil => rw [List.nil_append, digitTail?_cons p hunder', if_neg (by simp [hnew])]
    | cons y v =>
      obtain ⟨rfl, -⟩ := List.cons.inj heq
      rw [List.cons_append, digitTail?_cons p hline, if_neg hx]

/-- Digits, and then what ends a numeral in front of a literal. -/
theorem digits_swap (hc : Swap c c') {p : Char → Bool} {v v' d : Text}
    (hp : openers.any p = false)
    {f : Text → Text → Option (Text × Text)}
    (hf : ∀ {v ds}, f ds (v ++ c :: r) = some (d, v' ++ c :: r) →
      f ds (v ++ c' :: r') = some (d, v' ++ c' :: r'))
    (h : ((digitTail? p (v ++ c :: r)).bind fun (ds, rest) => f ds rest) =
      some (d, v' ++ c :: r)) :
    ((digitTail? p (v ++ c' :: r')).bind fun (ds, rest) => f ds rest) =
      some (d, v' ++ c' :: r') := by
  obtain ⟨⟨ds, rest⟩, htail, h⟩ := Option.bind_eq_some_iff.1 h
  obtain ⟨v₁, rfl, hread⟩ := digitTail?_swap hc hp htail
  rw [hread]
  exact hf h

/-- What follows the digits of a whole decimal number without a point. -/
def wholeRest? (ds rest : Text) : Option (Text × Text) :=
  (exponent? ds rest).bind fun (digits, r) =>
    if digits.length = ds.length && !isWhole ds then none else some (digits, r)

/-- What follows the first digits of a decimal numeral. -/
def decimalRest? (ds rest : Text) : Option (Text × Text) :=
  match rest with
  | '.' :: after => fraction? (ds ++ ['.']) after
  | c :: _ => if c = 'j' ∨ c = 'J' then imaginary? ds rest else wholeRest? ds rest
  | [] => if isWhole ds then finish? ds rest else none

theorem decimalRest?_cons {x : Char} (hx : x ≠ '.') (ds t : Text) :
    decimalRest? ds (x :: t) =
      if x = 'j' ∨ x = 'J' then imaginary? ds (x :: t) else wholeRest? ds (x :: t) := by
  unfold decimalRest?
  split
  next heq => exact absurd (List.cons.inj heq).1 hx
  next heq => cases heq; rfl
  next heq => cases heq

/-- The digits of a number in another base. -/
def basedRest? (letters : Text) (p : Char → Bool) (t : Text) : Option (Text × Text) :=
  match t with
  | c :: _ => if p c then (digitTail? p t).bind fun (ds, r) => finish? (letters ++ ds) r else none
  | [] => none

theorem based?_cons {x : Char} (hx : x ≠ '_') (letters : Text) (p : Char → Bool) (t : Text) :
    based? letters p (x :: t) = basedRest? (letters ++ []) p (x :: t) := by
  unfold based?
  split
  next heq =>
    split at heq
    next h => exact absurd (List.cons.inj h).1 hx
    next => cases heq; rfl

section

variable (hc : Swap c c') {v v' d ds : Text} (hends : StartsWord v' → Ends v' c)

include hc hends

theorem finish?_swap (h : finish? ds (v ++ c :: r) = some (d, v' ++ c :: r)) :
    finish? ds (v ++ c' :: r') = some (d, v' ++ c' :: r') := by
  unfold finish? at h ⊢
  split at h
  next hmay =>
    simp only [Option.some.injEq, Prod.mk.injEq] at h
    obtain ⟨rfl, heq⟩ := h
    obtain rfl := List.append_cancel_right heq
    rw [if_pos (mayEndBefore_swap hc hends hmay)]
  next => cases h

theorem imaginary?_swap (h : imaginary? ds (v ++ c :: r) = some (d, v' ++ c :: r)) :
    imaginary? ds (v ++ c' :: r') = some (d, v' ++ c' :: r') := by
  cases v with
  | nil =>
    obtain ⟨hj, hj'⟩ := hc.ne (x := 'j') (by decide)
    obtain ⟨hJ, hJ'⟩ := hc.ne (x := 'J') (by decide)
    rw [List.nil_append, imaginary?, if_neg (by simp [hj, hJ])] at h
    rw [List.nil_append, imaginary?, if_neg (by simp [hj', hJ'])]
    exact finish?_swap (v := []) hc hends h
  | cons x v =>
    rw [List.cons_append, imaginary?] at h ⊢
    split at h
    next hx => rw [if_pos hx]; exact finish?_swap hc hends h
    next hx => rw [if_neg hx]; exact finish?_swap (v := x :: v) hc hends h

theorem exponent?_swap (h : exponent? ds (v ++ c :: r) = some (d, v' ++ c :: r)) :
    exponent? ds (v ++ c' :: r') = some (d, v' ++ c' :: r') := by
  obtain ⟨hdigit, hdigit'⟩ := hc.both (p := Char.isDigit) (by decide)
  unfold exponent? at h ⊢
  match v with
  | [] =>
    obtain ⟨he, he'⟩ := hc.ne (x := 'e') (by decide)
    obtain ⟨hE, hE'⟩ := hc.ne (x := 'E') (by decide)
    dsimp only [List.nil_append] at h ⊢
    rw [if_neg (by simp [he, hE])] at h
    rw [if_neg (by simp [he', hE'])]
    exact imaginary?_swap (v := []) hc hends h
  | [e] =>
    obtain ⟨hplus, hplus'⟩ := hc.ne (x := '+') (by decide)
    obtain ⟨hminus, hminus'⟩ := hc.ne (x := '-') (by decide)
    dsimp only [List.nil_append, List.cons_append] at h ⊢
    by_cases he : e = 'e' ∨ e = 'E'
    · rw [if_pos he, if_neg (by simp [hplus, hminus]), if_neg (by simp [hdigit])] at h
      rw [if_pos he, if_neg (by simp [hplus', hminus']), if_neg (by simp [hdigit'])]
      exact finish?_swap (v := [e]) hc hends h
    · rw [if_neg he] at h ⊢
      exact imaginary?_swap (v := [e]) hc hends h
  | e :: x :: v =>
    dsimp only [List.cons_append] at h ⊢
    by_cases he : e = 'e' ∨ e = 'E'
    · rw [if_pos he] at h ⊢
      by_cases hx : x = '+' ∨ x = '-'
      · rw [if_pos hx] at h ⊢
        cases v with
        | nil =>
          dsimp only [List.nil_append] at h
          rw [if_neg (by simp [hdigit])] at h
          cases h
        | cons y v =>
          dsimp only [List.cons_append] at h ⊢
          split at h
          next hy =>
            rw [if_pos hy]
            exact digits_swap (v := y :: v) hc (by decide)
              (f := fun ds r => imaginary? (_ ++ e :: x :: ds) r)
              (fun h => imaginary?_swap hc hends h) h
          next => cases h
      · rw [if_neg hx] at h ⊢
        split at h
        next hy =>
          rw [if_pos hy]
          exact digits_swap (v := x :: v) hc (by decide)
            (f := fun ds r => imaginary? (_ ++ e :: ds) r)
            (fun h => imaginary?_swap hc hends h) h
        next hy =>
          rw [if_neg hy]
          exact finish?_swap (v := e :: x :: v) hc hends h
    · rw [if_neg he] at h ⊢
      exact imaginary?_swap (v := e :: x :: v) hc hends h

theorem fraction?_swap (h : fraction? ds (v ++ c :: r) = some (d, v' ++ c :: r)) :
    fraction? ds (v ++ c' :: r') = some (d, v' ++ c' :: r') := by
  obtain ⟨hdigit, hdigit'⟩ := hc.both (p := Char.isDigit) (by decide)
  unfold fraction? at h ⊢
  cases v with
  | nil =>
    dsimp only [List.nil_append] at h ⊢
    rw [if_neg (by simp [hdigit])] at h
    rw [if_neg (by simp [hdigit'])]
    exact exponent?_swap (v := []) hc hends h
  | cons x v =>
    dsimp only [List.cons_append] at h ⊢
    split at h
    next hx =>
      rw [if_pos hx]
      exact digits_swap (v := x :: v) hc (by decide)
        (f := fun ds' r => exponent? (ds ++ ds') r) (fun h => exponent?_swap hc hends h) h
    next hx =>
      rw [if_neg hx]
      exact exponent?_swap (v := x :: v) hc hends h

theorem decimalRest?_swap (h : decimalRest? ds (v ++ c :: r) = some (d, v' ++ c :: r)) :
    decimalRest? ds (v ++ c' :: r') = some (d, v' ++ c' :: r') := by
  have hwhole : ∀ {v : Text}, wholeRest? ds (v ++ c :: r) = some (d, v' ++ c :: r) →
      wholeRest? ds (v ++ c' :: r') = some (d, v' ++ c' :: r') := by
    intro v h
    unfold wholeRest? at h ⊢
    obtain ⟨⟨digits, rest⟩, hexponent, h⟩ := Option.bind_eq_some_iff.1 h
    dsimp only at h
    split at h
    next => cases h
    next hlength =>
      cases h
      rw [exponent?_swap hc hends hexponent, Option.bind_some]
      exact if_neg hlength
  cases v with
  | nil =>
    obtain ⟨hpoint, hpoint'⟩ := hc.ne (x := '.') (by decide)
    obtain ⟨hj, hj'⟩ := hc.ne (x := 'j') (by decide)
    obtain ⟨hJ, hJ'⟩ := hc.ne (x := 'J') (by decide)
    rw [List.nil_append, decimalRest?_cons hpoint, if_neg (by simp [hj, hJ])] at h
    rw [List.nil_append, decimalRest?_cons hpoint', if_neg (by simp [hj', hJ'])]
    exact hwhole (v := []) h
  | cons x v =>
    by_cases hx : x = '.'
    · subst hx
      exact fraction?_swap hc hends h
    · rw [List.cons_append, decimalRest?_cons hx] at h ⊢
      split at h
      next hj => rw [if_pos hj]; exact imaginary?_swap (v := x :: v) hc hends h
      next hj => rw [if_neg hj]; exact hwhole (v := x :: v) h

theorem decimal?_swap (h : decimal? (v ++ c :: r) = some (d, v' ++ c :: r)) :
    decimal? (v ++ c' :: r') = some (d, v' ++ c' :: r') :=
  digits_swap hc (by decide) (f := decimalRest?) (fun h => decimalRest?_swap hc hends h) h

theorem based?_swap {p : Char → Bool} (hp : openers.any p = false)
    {letters : Text} (h : based? letters p (v ++ c :: r) = some (d, v' ++ c :: r)) :
    based? letters p (v ++ c' :: r') = some (d, v' ++ c' :: r') := by
  obtain ⟨hold, hnew⟩ := hc.both hp
  have hdigits : ∀ {under v : Text}, basedRest? (letters ++ under) p (v ++ c :: r) =
      some (d, v' ++ c :: r) → basedRest? (letters ++ under) p (v ++ c' :: r') =
        some (d, v' ++ c' :: r') := by
    intro under v h
    cases v with
    | nil =>
      rw [List.nil_append, basedRest?, if_neg (by simp [hold])] at h
      cases h
    | cons x v =>
      rw [List.cons_append, basedRest?] at h ⊢
      split at h
      next hx =>
        rw [if_pos hx]
        exact digits_swap (v := x :: v) hc hp (f := fun ds r => finish? (letters ++ under ++ ds) r)
          (fun h => finish?_swap hc hends h) h
      next => cases h
  cases v with
  | nil =>
    obtain ⟨hunder, hunder'⟩ := hc.ne (x := '_') (by decide)
    rw [List.nil_append, based?_cons hunder] at h
    rw [List.nil_append, based?_cons hunder']
    exact hdigits (v := []) h
  | cons x v =>
    by_cases hx : x = '_'
    · subst hx
      exact hdigits h
    · rw [List.cons_append, based?_cons hx] at h ⊢
      exact hdigits (v := x :: v) h

/-- A numeral in front of a literal does not depend on the literal. -/
theorem splitNumeral?_swap (hv : v ≠ [])
    (h : splitNumeral? (v ++ c :: r) = some (d, v' ++ c :: r)) :
    splitNumeral? (v ++ c' :: r') = some (d, v' ++ c' :: r') := by
  have hbase : ∀ (x y : Char), openers.any (· == x) = false → openers.any (· == y) = false →
      ¬ (c = x ∨ c = y) ∧ ¬ (c' = x ∨ c' = y) := by
    intro x y hx hy
    have hx := hc.ne hx
    have hy := hc.ne hy
    simp [hx, hy]
  have hother : ∀ {x : Char} {t : Text}, x ≠ '.' → x ≠ '0' →
      splitNumeral? (x :: t) = decimal? (x :: t) := by
    intro x t hpoint hzero
    rw [splitNumeral?]
    · exact fun _ heq => hpoint (List.cons.inj heq).1
    · exact fun _ _ heq => hzero (List.cons.inj heq).1
  obtain ⟨x, v, rfl⟩ := List.exists_cons_of_ne_nil hv
  by_cases hpoint : x = '.'
  · subst hpoint
    exact fraction?_swap hc hends h
  by_cases hzero : x = '0'
  · subst hzero
    cases v with
    | nil =>
      obtain ⟨hx, hx'⟩ := hbase 'x' 'X' (by decide) (by decide)
      obtain ⟨ho, ho'⟩ := hbase 'o' 'O' (by decide) (by decide)
      obtain ⟨hb, hb'⟩ := hbase 'b' 'B' (by decide) (by decide)
      rw [List.cons_append, List.nil_append, splitNumeral?, if_neg hx, if_neg ho, if_neg hb] at h
      rw [List.cons_append, List.nil_append, splitNumeral?, if_neg hx', if_neg ho', if_neg hb']
      exact decimal?_swap (v := ['0']) hc hends h
    | cons y v =>
      rw [List.cons_append, List.cons_append, splitNumeral?] at h ⊢
      split at h
      next hy => rw [if_pos hy]; exact based?_swap hc hends (by decide) h
      next hy =>
        rw [if_neg hy]
        split at h
        next hy => rw [if_pos hy]; exact based?_swap hc hends (by decide) h
        next hy =>
          rw [if_neg hy]
          split at h
          next hy => rw [if_pos hy]; exact based?_swap hc hends (by decide) h
          next hy => rw [if_neg hy]; exact decimal?_swap (v := '0' :: y :: v) hc hends h
  · rw [List.cons_append, hother hpoint hzero] at h ⊢
    exact decimal?_swap (v := x :: v) hc hends h

end

end Numeral

/-! ## Lexemes -/

namespace Token

open Numeral (Ends StartsWord isNameChar)

variable {c c' : Char} {u r r' : Text}

theorem literalLetters?_of_start {a : Char} (hmark : isMark a = false)
    (hstart : mayStartName a = false) (t : Text) : literalLetters? (a :: t) = none := by
  rw [Option.eq_none_iff_forall_ne_some]
  intro m hm
  obtain ⟨hgroup, x, rest, hdrop, hx⟩ := literalLetters?_eq_some hm
  cases m with
  | zero =>
    rw [← (List.cons.inj hdrop).1, hmark] at hx
    cases hx
  | succ m =>
    have ha := ((isLetterGroup_chars hgroup).2 a (by simp)).1
    rw [hstart] at ha
    cases ha

/-- No literal begins in front of a literal, unless what stands between is letters. -/
theorem literalLetters?_swap (hc : Swap c c')
    (hword : (∀ x ∈ u, isNameChar x = true) → isNameChar c = false)
    (h : literalLetters? (u ++ c :: r) = none) : literalLetters? (u ++ c' :: r') = none := by
  rw [Option.eq_none_iff_forall_ne_some]
  intro m hm
  obtain ⟨hgroup, x, rest, hdrop, hx⟩ := literalLetters?_eq_some hm
  have hchars := (isLetterGroup_chars hgroup).2
  rcases Nat.lt_or_ge m u.length with hlt | hge
  · -- The letters and the quote both stand in front.
    rw [List.take_append_of_le_length hlt.le] at hgroup
    rw [List.drop_append_of_le_length hlt.le, List.drop_eq_getElem_cons hlt] at hdrop
    obtain ⟨rfl, -⟩ := List.cons.inj hdrop
    have hfound := literalLetters?_eq hgroup hx (u.drop (m + 1) ++ c :: r)
    rw [← List.cons_append, ← List.drop_eq_getElem_cons hlt, ← List.append_assoc,
      List.take_append_drop, h] at hfound
    cases hfound
  · have hall : ∀ y ∈ u, y ∈ (u ++ c' :: r').take m := by
      intro y hy
      rw [List.take_append, List.take_of_length_le hge]
      exact List.mem_append_left _ hy
    have hname : isNameChar c = false :=
      hword fun y hy => isNameChar_of_mayStartName (hchars y (hall y hy)).1
    obtain ⟨hmark, hmark'⟩ := hc.marks hname
    rcases Nat.lt_or_ge u.length m with hlt | hle
    · have hmem : c' ∈ (u ++ c' :: r').take m := by
        obtain ⟨k, rfl⟩ : ∃ k, m = u.length + (k + 1) := ⟨m - u.length - 1, by omega⟩
        rw [List.take_length_add_append, List.take_succ_cons]
        simp
      rw [(hchars c' hmem).2] at hmark'
      cases hmark'
    · obtain rfl : m = u.length := Nat.le_antisymm hle hge
      rw [List.take_left] at hgroup
      rw [literalLetters?_eq hgroup hmark r] at h
      cases h

/-- The first characters of a text do not depend on the literal, or reach into it. -/
theorem take_swap (c c' : Char) (r r' u : Text) (k : Nat) :
    (u ++ c' :: r').take k = (u ++ c :: r).take k ∨
      c ∈ (u ++ c :: r).take k ∧ c' ∈ (u ++ c' :: r').take k := by
  rcases Nat.lt_or_ge u.length k with hlt | hle
  · obtain ⟨j, rfl⟩ : ∃ j, k = u.length + (j + 1) := ⟨k - u.length - 1, by omega⟩
    refine .inr ⟨?_, ?_⟩ <;>
    · rw [List.take_length_add_append, List.take_succ_cons]
      exact List.mem_append_right _ (List.mem_cons_self ..)
  · rw [List.take_append_of_le_length hle, List.take_append_of_le_length hle]
    exact .inl rfl

/-- A text with a character that no sign has is no sign. -/
theorem not_contains_of_mem {signs : List Text} {x : Char} {t : Text}
    (h : (signs.any (·.contains x)) = false) (hx : x ∈ t) : signs.contains t = false := by
  refine Bool.eq_false_iff.2 fun hmem => ?_
  exact List.any_eq_false.1 h t (List.contains_iff_mem.1 hmem) (List.contains_iff_mem.2 hx)

/-- A sign in front of a literal does not depend on the literal. -/
theorem sign?_swap (hc : Swap c c') (hu : u ≠ []) :
    sign? (u ++ c' :: r') = sign? (u ++ c :: r) := by
  -- Whether the first characters are some sign does not depend on the literal either.
  have hsame : ∀ (k : Nat) (signs : List Text),
      (openers.any fun x => signs.any (·.contains x)) = false →
        signs.contains ((u ++ c' :: r').take k) = signs.contains ((u ++ c :: r).take k) ∧
          (signs.contains ((u ++ c :: r).take k) = true →
            (u ++ c' :: r').take k = (u ++ c :: r).take k) := by
    intro k signs hsigns
    obtain ⟨hold, hnew⟩ := hc.both hsigns
    rcases take_swap c c' r r' u k with heq | ⟨hmem, hmem'⟩
    · exact ⟨by rw [heq], fun _ => heq⟩
    · refine ⟨(not_contains_of_mem hnew hmem').trans (not_contains_of_mem hold hmem).symm,
        fun h => ?_⟩
      rw [not_contains_of_mem hold hmem] at h
      cases h
  obtain ⟨h₃, htake₃⟩ := hsame 3 signs₃ (by decide)
  obtain ⟨h₂, htake₂⟩ := hsame 2 signs₂ (by decide)
  obtain ⟨hangle, -⟩ := hsame 2 [['<', '>']] (by decide)
  have hangle : ((u ++ c' :: r').take 2 = ['<', '>']) = ((u ++ c :: r).take 2 = ['<', '>']) := by
    simpa using hangle
  obtain ⟨a, u, rfl⟩ := List.exists_cons_of_ne_nil hu
  unfold sign?
  rw [h₃, h₂]
  split
  next hmem => rw [htake₃ hmem]
  next =>
    split
    next hmem => rw [htake₂ hmem]
    next =>
      simp only [hangle]
      rfl

theorem startsNumeral_cons {a : Char} (ha : a ≠ '.') (t : Text) :
    startsNumeral (a :: t) = a.isDigit := by
  unfold startsNumeral
  split
  next heq => exact absurd (List.cons.inj heq).1 ha
  next heq => cases heq; rfl
  next heq => cases heq

/-- The beginning of a numeral does not depend on the literal behind it. -/
theorem startsNumeral_swap (hc : Swap c c') (hu : u ≠ []) :
    startsNumeral (u ++ c' :: r') = startsNumeral (u ++ c :: r) := by
  obtain ⟨hdigit, hdigit'⟩ := hc.both (p := Char.isDigit) (by decide)
  obtain ⟨a, u, rfl⟩ := List.exists_cons_of_ne_nil hu
  by_cases ha : a = '.'
  · subst ha
    cases u with
    | nil => exact hdigit'.trans hdigit.symm
    | cons b u => rfl
  · exact (startsNumeral_cons ha _).trans (startsNumeral_cons ha _).symm

theorem lexeme?_of_letters {t : Text} {m : Nat} (h : literalLetters? t = some m) :
    lexeme? t = (splitPiece? t).map fun (_, rest) => (.string, t.length - rest.length) := by
  unfold lexeme?
  rw [h]

theorem lexeme?_cons {a : Char} {t : Text} (h : literalLetters? (a :: t) = none) :
    lexeme? (a :: t) =
      if mayStartName a then
        let name := (a :: t).takeWhile isNameChar
        if name.all (fun c => decide (c.toNat < 0x80)) || Text.isIdentifier name then
          some (.name, name.length)
        else none
      else if startsNumeral (a :: t) then
        (Numeral.splitNumeral? (a :: t)).map fun (digits, _) => (.number, digits.length)
      else (sign? (a :: t)).map fun s => (.sign, s.length) := by
  unfold lexeme?
  rw [h]

/-- A piece is a lexeme. -/
theorem lexeme?_of_splitPiece? {t rest : Text} {p : Piece}
    (h : splitPiece? t = some (p, rest)) : lexeme? t = some (.string, p.text.length) := by
  have hlength : t.length - rest.length = p.text.length := by
    rw [splitPiece?_eq h, List.length_append, Nat.add_sub_cancel]
  cases hletters : literalLetters? t with
  | none =>
    rw [splitPiece?, hletters] at h
    cases h
  | some m =>
    rw [lexeme?_of_letters hletters, h]
    exact congrArg (fun n => some (TokenKind.string, n)) hlength

/-- No lexeme begins with a comment, a line break or a backslash. -/
theorem lexeme?_eq_none {x : Char} (hx : x ∈ ['#', '\n', '\\']) (t : Text) :
    lexeme? (x :: t) = none := by
  have hchar : isMark x = false ∧ mayStartName x = false ∧ x ≠ '.' ∧ x.isDigit = false ∧
      x ≠ '<' ∧ (signs₃.any (·.contains x)) = false ∧ (signs₂.any (·.contains x)) = false ∧
        x ∉ signs₁ := by
    simp only [List.mem_cons, List.not_mem_nil, or_false] at hx
    rcases hx with rfl | rfl | rfl <;> decide
  obtain ⟨hmark, hstart, hpoint, hdigit, hangle, h₃, h₂, h₁⟩ := hchar
  have hmem : ∀ k, x ∈ (x :: t).take (k + 1) := fun k => by simp
  have hsign : sign? (x :: t) = none := by
    rw [sign?, not_contains_of_mem h₃ (hmem 2), not_contains_of_mem h₂ (hmem 1)]
    simp [hangle, h₁]
  rw [lexeme?_cons (literalLetters?_of_start hmark hstart t), hsign, startsNumeral_cons hpoint,
    hstart, hdigit]
  rfl

/-- A name in front of a literal does not depend on the literal. -/
theorem takeWhile_swap {p : Char → Bool}
    (hall : (∀ x ∈ u, p x = true) → p c = false ∧ p c' = false) :
    (u ++ c' :: r').takeWhile p = (u ++ c :: r).takeWhile p := by
  rw [List.takeWhile_append, List.takeWhile_append]
  split
  next hlength =>
    have hu : ∀ x ∈ u, p x = true := fun x hx => by
      have htake := (List.takeWhile_prefix (l := u) p).eq_of_length hlength
      rw [← htake] at hx
      exact List.all_eq_true.1 List.all_takeWhile x hx
    obtain ⟨hc, hc'⟩ := hall hu
    rw [List.takeWhile_cons_of_neg (Bool.eq_false_iff.1 hc),
      List.takeWhile_cons_of_neg (Bool.eq_false_iff.1 hc')]
  next => rfl

/-- A piece that ends in front of a literal does not depend on the literal, unless it ends where
the literal begins. -/
theorem splitPiece?_swap {p : Piece} {rest : Text}
    (h : splitPiece? (u ++ c :: r) = some (p, rest)) (hlt : p.text.length < u.length) :
    ∃ rest', splitPiece? (u ++ c' :: r') = some (p, rest') := by
  have hsplit : u.take p.text.length ++ (u.drop p.text.length ++ c :: r) = p.text ++ rest := by
    rw [← List.append_assoc, List.take_append_drop, splitPiece?_eq h]
  obtain ⟨htext, hrest⟩ := List.append_inj hsplit (by rw [List.length_take]; omega)
  have hcons := List.drop_eq_getElem_cons hlt
  rw [hcons, List.cons_append] at hrest
  rw [← hrest] at h
  have hnew : splitPiece? (p.text ++ u[p.text.length] ::
      (u.drop (p.text.length + 1) ++ c' :: r')) =
        some (p, u[p.text.length] :: (u.drop (p.text.length + 1) ++ c' :: r')) :=
    splitPiece?_append h rfl
  have hwhole : u ++ c' :: r' =
      p.text ++ u[p.text.length] :: (u.drop (p.text.length + 1) ++ c' :: r') :=
    calc u ++ c' :: r' = u.take p.text.length ++ u.drop p.text.length ++ c' :: r' := by
          rw [List.take_append_drop]
      _ = _ := by rw [htext, hcons, List.append_assoc, List.cons_append]
  exact ⟨_, by rw [hwhole, hnew]⟩

/-- Nor does a numeral, unless a word follows that ends with the beginning of the literal. -/
theorem splitNumeral?_length_swap (hc : Swap c c') (hu : u ≠ []) {d rest : Text}
    (hstart : startsNumeral (u ++ c :: r) = true)
    (h : Numeral.splitNumeral? (u ++ c :: r) = some (d, rest)) (hle : d.length ≤ u.length)
    (hends : StartsWord (u.drop d.length) → Ends (u.drop d.length) c) :
    ∃ rest', Numeral.splitNumeral? (u ++ c' :: r') = some (d, rest') := by
  obtain ⟨⟨more, hd, hrest, -⟩, -⟩ := Numeral.splitNumeral?_extends hstart h
  obtain rfl : d = more := hd
  have hrest : u.take d.length ++ (u.drop d.length ++ c :: r) = d ++ rest := by
    rw [← List.append_assoc, List.take_append_drop]
    exact hrest
  obtain ⟨-, rfl⟩ := List.append_inj hrest (by rw [List.length_take]; omega)
  exact ⟨_, Numeral.splitNumeral?_swap hc hends hu h⟩

/-- A word that ends in front of a literal goes on up to a character that belongs to no name, so
it does not run into the literal. -/
theorem isNameChar_of_takeWhile_le
    (h : ((u ++ c :: r).takeWhile isNameChar).length ≤ u.length)
    (hall : ∀ x ∈ u, isNameChar x = true) : isNameChar c = false := by
  refine Bool.eq_false_iff.2 fun hname => ?_
  rw [List.takeWhile_append_of_pos hall, List.takeWhile_cons_of_pos hname] at h
  simp only [List.length_append, List.length_cons] at h
  omega

/-- A lexeme in front of a literal does not depend on the literal. -/
theorem lexeme?_swap (hc : Swap c c') (r' : Text) (hu : u ≠ []) {k : TokenKind} {n : Nat}
    (h : lexeme? (u ++ c :: r) = some (k, n)) (hn : n ≤ u.length)
    (hstring : k = .string → n < u.length)
    (hends : k = .number → StartsWord (u.drop n) → Ends (u.drop n) c) :
    lexeme? (u ++ c' :: r') = some (k, n) := by
  cases hletters : literalLetters? (u ++ c :: r) with
  | some m =>
    have hread := h
    rw [lexeme?_of_letters hletters] at hread
    obtain ⟨⟨p, rest⟩, hpiece, -⟩ := Option.map_eq_some_iff.1 hread
    rw [lexeme?_of_splitPiece? hpiece] at h
    cases h
    obtain ⟨rest', hnew⟩ := splitPiece?_swap hpiece (hstring rfl)
    exact lexeme?_of_splitPiece? hnew
  | none =>
    obtain ⟨a, u, rfl⟩ := List.exists_cons_of_ne_nil hu
    rw [List.cons_append] at hletters h ⊢
    rw [lexeme?_cons hletters] at h
    by_cases hstart : mayStartName a = true
    · rw [if_pos hstart] at h
      have hlength : ((a :: u ++ c :: r).takeWhile isNameChar).length ≤ (a :: u).length := by
        dsimp only at h
        split at h
        · cases h
          exact hn
        · cases h
      have hword := isNameChar_of_takeWhile_le hlength
      have hnew : literalLetters? (a :: (u ++ c' :: r')) = none :=
        literalLetters?_swap (u := a :: u) hc hword hletters
      have hsame : (a :: (u ++ c' :: r')).takeWhile isNameChar =
          (a :: (u ++ c :: r)).takeWhile isNameChar :=
        takeWhile_swap (u := a :: u)
          fun hall => ⟨hword hall, isNameChar_of_isMark (hc.marks (hword hall)).2⟩
      rw [lexeme?_cons hnew, if_pos hstart, hsame]
      exact h
    · have hmark : isMark a = false := by
        refine Bool.eq_false_iff.2 fun ha => ?_
        have hfound : literalLetters? (a :: (u ++ c :: r)) = some 0 :=
          literalLetters?_eq (show isLetterGroup [] = true from rfl) ha (u ++ c :: r)
        rw [hletters] at hfound
        cases hfound
      rw [lexeme?_cons (literalLetters?_of_start hmark (Bool.eq_false_iff.2 hstart) _),
        if_neg hstart]
      rw [if_neg hstart] at h
      have hsame : startsNumeral (a :: (u ++ c' :: r')) = startsNumeral (a :: (u ++ c :: r)) :=
        startsNumeral_swap hc (List.cons_ne_nil a u)
      rw [hsame]
      by_cases hnumeral : startsNumeral (a :: (u ++ c :: r)) = true
      · rw [if_pos hnumeral] at h ⊢
        obtain ⟨⟨d, rest⟩, hsplit, heq⟩ := Option.map_eq_some_iff.1 h
        cases heq
        obtain ⟨rest', hnew⟩ : ∃ rest', Numeral.splitNumeral? (a :: (u ++ c' :: r')) =
            some (d, rest') :=
          splitNumeral?_length_swap hc (List.cons_ne_nil a u) hnumeral hsplit hn (hends rfl)
        rw [hnew]
        rfl
      · rw [if_neg hnumeral] at h ⊢
        have hsign : sign? (a :: (u ++ c' :: r')) = sign? (a :: (u ++ c :: r)) :=
          sign?_swap hc (List.cons_ne_nil a u)
        rw [hsign]
        exact h

end Token

end TextDomain
