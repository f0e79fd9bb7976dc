import TextDomain.Proofs.Rewriting.Offsets
import TextDomain.Proofs.Rewriting.Source

/-!
# The tree of a source with a literal written anew

A literal that is read outside of replacement fields is a run of plain string tokens
(`Original`). Another literal fits in its place if it is one plain piece with nothing around
it that could run into what stands on either side (`Literal.FitsFor`). The source with this
literal is lexed into the tokens that correspond, and its tree has the calls that correspond.

## Main results

* `Original.lex?_rewritten` — the tokens of the new source.
* `Original.ofSource?_rewritten` — the calls of its tree correspond to the old ones.
-/

namespace TextDomain

open Token (Lexed costs)
open Text (Cut)

/-! ## Ended texts -/

namespace Text

variable {t u v : Text}

/-- The text with its last line ended. -/
def ended (t : Text) : Text := if t.getLast? = some '\n' then t else t ++ ['\n']

theorem getLast?_ended (t : Text) : (ended t).getLast? = some '\n' := by
  unfold ended
  split
  next h => exact h
  next => simp

theorem ended_append (h : v.getLast? ≠ some '\n') (t : Text) : ended (v ++ t) = v ++ ended t := by
  cases t with
  | nil =>
    rw [List.append_nil, ended, if_neg h]
    rfl
  | cons c t =>
    unfold ended
    rw [List.getLast?_append_of_ne_nil _ (List.cons_ne_nil c t)]
    split
    · rfl
    · exact List.append_assoc ..

theorem prefix_ended (t : Text) : t <+: ended t := by
  unfold ended
  split
  · exact List.prefix_refl t
  · exact List.prefix_append t ['\n']

theorem length_ended_le (t : Text) : (ended t).length ≤ t.length + 1 := by
  unfold ended
  split
  · exact Nat.le_succ _
  · exact (List.length_append ..).le

/-- What the ended text begins with, the text does, unless it is all of it. -/
theorem prefix_of_ended (h : v <+: ended t) (hne : v ≠ ended t) : v <+: t := by
  unfold ended at h hne
  split at h
  next => exact h
  next hlast =>
    rw [if_neg hlast] at hne
    exact (List.prefix_concat_iff.1 h).resolve_left hne

end Text

namespace Token

theorem lex?_eq (t : Text) : lex? t = lexAt? .origin (Text.ended t) := by
  unfold lex? Text.ended
  split <;> rfl

/-- The tokens of a source. -/
def Lexed.ofLex {t : Text} {tokens : List Token} (h : lex? t = some tokens) : Lexed where
  origin := .origin
  text := Text.ended t
  all := tokens
  tokens := tokens
  lexed := (lex?_eq t).symm.trans h
  ended := Text.getLast?_ended t
  suffix := List.suffix_refl tokens

namespace Lexed

variable {t : Text} {tokens : List Token} {h : lex? t = some tokens} {p : Position}

theorem prefix_of_inside (hp : (ofLex h).Inside p) :
    ∃ v, v <+: t ∧ p = Position.origin.after v := by
  obtain ⟨v, hv, hproper, rfl⟩ := hp
  exact ⟨v, Text.prefix_of_ended hv hproper, rfl⟩

theorem exists_standsAt {source : Text} {h : lex? source.unifyTerminators = some tokens}
    (hp : (ofLex h).Inside p) : ∃ i, p.StandsAt source i := by
  obtain ⟨v, hv, rfl⟩ := prefix_of_inside hp
  exact Position.exists_standsAt_of_unified hv

/-- A string token stands in the source. -/
theorem exists_spans_of_string {source : Text} (h : lex? source.unifyTerminators = some tokens)
    {t : Token} (ht : t ∈ tokens) (hkind : t.kind = .string) :
    (ofLex h).Inside t.extent.start ∧ (ofLex h).Inside t.extent.stop ∧
      ∃ i j, t.extent.Spans source i j := by
  have hlayout : isLayoutKind t.kind = false := by rw [hkind]; rfl
  have hlt := start_lt_stop (l := ofLex h) ht hlayout
  have hstop := inside_stop (l := ofLex h) ht hlayout
  have hstart := inside_start (l := ofLex h) ht hstop hlt.le
  obtain ⟨i, hi⟩ := exists_standsAt hstart
  obtain ⟨j, hj⟩ := exists_standsAt hstop
  exact ⟨hstart, hstop, i, j, hi, hj, hlt.le⟩

/-- The calls of the tree of a source lie in its tokens. -/
theorem holds_of_ofSource? {source : Text} (h : lex? source.unifyTerminators = some tokens)
    {n : Node} (hn : Node.ofSource? source = some n) : (ofLex h).Holds n := by
  obtain ⟨tokens', hlexed, hn⟩ := Option.bind_eq_some_iff.1 hn
  obtain rfl : tokens = tokens' := Option.some.inj (h.symm.trans hlexed)
  obtain ⟨⟨m, s⟩, hfile, heq⟩ := Option.bind_eq_some_iff.1 hn
  obtain rfl : m = n := Option.some.inj heq
  exact (Parser.file_reads (ofLex h) _ (TokenStream.of_tokens (ofLex h)) hfile).2.2

/-- Two beginnings of a source that end at the same position are the same. -/
theorem prefix_unique {u v : Text} (hu : u <+: t) (hv : v <+: (ofLex h).text)
    (hp : Position.origin.after u = Position.origin.after v) : u = v := by
  obtain ⟨x, hx⟩ := hu.trans (Text.prefix_ended t)
  obtain ⟨y, hy⟩ := hv
  exact Position.eq_of_after_eq (hx.trans hy.symm) hp

/-- The depth at which a source is read exceeds what its tokens cost. -/
theorem costs_lt (h : lex? t = some tokens) : costs tokens < 4 * t.length + 16 := by
  have hcosts := costs_le_of_lexAt? ((lex?_eq t).symm.trans h)
  have hlength := Text.length_ended_le t
  omega

end Lexed

end Token

/-! ## The literal -/

namespace Literal

/-- A literal that may be written in the place of another one. -/
structure FitsFor (lit new value : Text) : Prop where
  denotes : Denotes new value
  unified : '\r' ∉ new
  first : ∃ c ∈ new.head?, isMark c = true ∨ lit.head? = some c

variable {lit new value : Text}

theorem Denotes.exists_piece (h : Denotes new value) (hreturn : '\r' ∉ new) :
    ∃ p, p.IsPlain ∧ p.value? = some value ∧
      ∀ v, (∀ x ∈ v.head?, isMark x = false) → splitPiece? (new ++ v) = some (p, v) := by
  obtain ⟨-, p, hpiece, hplain, hvalue⟩ := h
  rw [Text.unifyTerminators_eq_self hreturn] at hpiece
  refine ⟨p, hplain, hvalue, fun v hv => ?_⟩
  have htext : new = p.text := by
    rw [splitPiece?_eq hpiece, List.append_nil]
  have hmark : ((v.head? == some p.mark) : Bool) = false := by
    refine beq_false_of_ne fun heq => ?_
    have hnot := hv p.mark heq
    rw [splitPiece?_isMark hpiece] at hnot
    cases hnot
  rw [htext]
  exact splitPiece?_append hpiece (by rw [hmark]; rfl)

/-- A plain piece begins with a quote or a letter. -/
theorem splitPiece?_head {t r : Text} {p : Piece} (h : splitPiece? t = some (p, r))
    (hplain : p.IsPlain) : ∃ c ∈ t.head?, isMark c = true ∨ isMarkerLetter c = true := by
  obtain ⟨m, rest, rfl, hm, hgroup⟩ := splitPiece?_letters h hplain
  rcases hgroup.eq_nil_or_singleton with hnil | ⟨l, hl, hletter⟩
  · rw [hnil]
    exact ⟨m, rfl, .inl hm⟩
  · rw [hl]
    exact ⟨l, rfl, .inr hletter⟩

/-- What is written anew begins and ends with no line terminator. -/
theorem FitsFor.cuts (h : FitsFor lit new value) (pre post : Text) :
    new ≠ [] ∧ new.getLast? ≠ some '\n' ∧ Cut pre (new ++ post) ∧ Cut (pre ++ new) post := by
  obtain ⟨p, hplain, -, hpiece⟩ := h.denotes.exists_piece h.unified
  have hpiece := hpiece [] nofun
  obtain ⟨c, hc, hfirst⟩ := splitPiece?_head hpiece hplain
  have htext := splitPiece?_eq hpiece
  rw [List.append_nil] at hc
  rw [List.append_nil, List.append_nil] at htext
  have hlast : new.getLast? = some p.mark := by rw [htext, getLast?_text]
  have hmark := isMark_cases (splitPiece?_isMark hpiece)
  have hne : new ≠ [] := by
    rintro rfl
    cases hc
  refine ⟨hne, ?_, ?_, ?_⟩
  · rw [hlast]
    rcases hmark with hmark | hmark <;> rw [hmark] <;> decide
  · intro _ hbreak
    rw [List.head?_append_of_ne_nil _ hne, hc] at hbreak
    obtain rfl : c = '\n' := Option.some.inj hbreak
    exact absurd hfirst (by decide)
  · intro hreturn
    rw [List.getLast?_append_of_ne_nil _ hne, hlast] at hreturn
    rcases hmark with hmark | hmark <;> rw [hmark] at hreturn <;> cases hreturn

end Literal

namespace Rewriting

variable {w : Rewriting} {pre lit post new value : Text} {tokens run : List Token}

/-- `lit` is written anew as `new`, behind `pre`. -/
def ofTexts (pre lit new value : Text) (tokens : List Token) : Rewriting where
  start := Position.origin.after (Text.unifyTerminators pre)
  oldStop := Position.origin.after (Text.unifyTerminators (pre ++ lit))
  newStop := Position.origin.after (Text.unifyTerminators (pre ++ new))
  value := value
  spots := Spot tokens

/-- The literal that is written anew, as it was read. -/
structure Original (pre lit post : Text) (tokens run : List Token) : Prop where
  ne_nil : lit ≠ []
  lexed : Token.lex? (Text.unifyTerminators (pre ++ (lit ++ post))) = some tokens
  isRun : IsRun tokens run
  plain : ∀ t ∈ run, IsPlainToken t
  start : ∀ t ∈ run.head?, t.extent.start.StandsAt (pre ++ (lit ++ post)) pre.length
  stop : ∀ t ∈ run.getLast?, t.extent.stop.StandsAt (pre ++ (lit ++ post)) (pre ++ lit).length

namespace Original

variable (h : Original pre lit post tokens run)

include h

theorem exists_first : ∃ first, run.head? = some first :=
  ⟨_, List.head?_eq_some_head h.isRun.ne_nil⟩

theorem exists_last : ∃ last, run.getLast? = some last :=
  ⟨_, List.getLast?_eq_some_getLast h.isRun.ne_nil⟩

theorem layout {t : Token} (ht : t ∈ run) : Token.isLayoutKind t.kind = false := by
  rw [h.isRun.strings t ht]
  rfl

/-- The text is cut where the literal begins. -/
theorem cut_start {first : Token} (hfirst : run.head? = some first) :
    first.extent.start = Position.origin.after (Text.unifyTerminators pre) ∧
      Cut pre (lit ++ post) := by
  have hmem := List.mem_of_head? hfirst
  have hinside := Lexed.inside_stop (l := .ofLex h.lexed) (h.isRun.subset _ hmem) (h.layout hmem)
  have hlt := Lexed.start_lt_stop (l := .ofLex h.lexed) (h.isRun.subset _ hmem) (h.layout hmem)
  obtain ⟨v, hv, hstart⟩ := Lexed.prefix_of_inside
    (Lexed.inside_start (h.isRun.subset _ hmem) hinside hlt.le)
  obtain ⟨hpre, hcut⟩ := Position.cut_of_standsAt hv (hstart ▸ h.start first hfirst)
  rw [List.take_left] at hpre hcut
  rw [List.drop_left] at hcut
  exact ⟨hpre ▸ hstart, hcut⟩

/-- The text is cut where the literal ends. -/
theorem cut_stop {last : Token} (hlast : run.getLast? = some last) :
    last.extent.stop = Position.origin.after (Text.unifyTerminators (pre ++ lit)) ∧
      Cut (pre ++ lit) post := by
  have hmem := List.mem_of_getLast? hlast
  obtain ⟨v, hv, hstop⟩ := Lexed.prefix_of_inside
    (Lexed.inside_stop (l := .ofLex h.lexed) (h.isRun.subset _ hmem) (h.layout hmem))
  have hstands := h.stop last hlast
  rw [← List.append_assoc] at hv hstands
  obtain ⟨hlit, hcut⟩ := Position.cut_of_standsAt hv (hstop ▸ hstands)
  rw [List.take_left] at hlit hcut
  rw [List.drop_left] at hcut
  exact ⟨hlit ▸ hstop, hcut⟩

/-- The literal stands behind what is in front of it, also where lines are ended alike. -/
theorem unify_eq : Text.unifyTerminators (pre ++ lit) =
    Text.unifyTerminators pre ++ Text.unifyTerminators lit := by
  obtain ⟨first, hfirst⟩ := h.exists_first
  refine Text.unifyTerminators_append fun hlast => ?_
  rw [← List.head?_append_of_ne_nil _ h.ne_nil]
  exact (h.cut_start hfirst).2 hlast

/-- No token of the literal ends behind the last one. -/
theorem stop_le {first last : Token} (hfirst : run.head? = some first)
    (hlast : run.getLast? = some last) : first.extent.stop ≤ last.extent.stop := by
  obtain ⟨rest, rfl⟩ := List.head?_eq_some_iff.1 hfirst
  cases rest with
  | nil =>
    obtain rfl := Option.some.inj hlast
    exact le_refl _
  | cons u rest =>
    obtain ⟨before, after, htokens, -, -⟩ := h.isRun.stands
    have hpairs := (Lexed.ofLex h.lexed).runs.pairwise
    rw [show (Lexed.ofLex h.lexed).tokens = _ from htokens] at hpairs
    have hmem : last ∈ u :: rest := by
      rw [List.getLast?_cons_cons] at hlast
      exact List.mem_of_getLast? hlast
    have hle : first.extent.stop ≤ last.extent.start :=
      (List.pairwise_cons.1 (List.pairwise_append.1 (List.pairwise_append.1 hpairs).2.1).1).1
        last hmem
    exact hle.trans (Lexed.start_lt_stop (l := .ofLex h.lexed)
      (h.isRun.subset _ (List.mem_cons_of_mem _ hmem)) (h.layout (List.mem_cons_of_mem _ hmem))).le

/-- The literal begins as a plain piece does. -/
theorem exists_start : ∃ letters m rest, lit = letters ++ m :: rest ∧
    Literal.isMark m = true ∧ Literal.IsPlainGroup letters := by
  obtain ⟨first, hfirst⟩ := h.exists_first
  obtain ⟨last, hlast⟩ := h.exists_last
  obtain ⟨hstart, hcut⟩ := h.cut_start hfirst
  obtain ⟨hstop, hcut'⟩ := h.cut_stop hlast
  have hmem := List.mem_of_head? hfirst
  obtain ⟨v, hv, hv', hend⟩ := Lexed.exists_before (l := .ofLex h.lexed) (h.isRun.subset _ hmem)
  have hsame : Text.unifyTerminators pre = v :=
    Lexed.prefix_unique (h := h.lexed)
      (by rw [Text.unifyTerminators_append hcut]; exact List.prefix_append _ _)
      ((List.prefix_append v _).trans hv) (hstart.symm.trans hv')
  have hwhole : Text.unifyTerminators (pre ++ lit) <+: (Lexed.ofLex h.lexed).text := by
    refine List.IsPrefix.trans ?_ (Text.prefix_ended _)
    rw [← List.append_assoc, Text.unifyTerminators_append hcut']
    exact List.prefix_append _ _
  -- The first piece ends within the literal.
  have hwithin : first.text <+: Text.unifyTerminators lit := by
    have hle : (Lexed.ofLex h.lexed).origin.after (v ++ first.text) ≤
        (Lexed.ofLex h.lexed).origin.after (Text.unifyTerminators (pre ++ lit)) :=
      hend ▸ hstop ▸ h.stop_le hfirst hlast
    have hprefix := Position.prefix_of_after_le hv hwhole hle
    rw [h.unify_eq, hsame] at hprefix
    exact (List.prefix_append_right_inj v).1 hprefix
  obtain ⟨-, p, r, _, hpiece, hbytes, hformatted, -⟩ := h.plain first hmem
  obtain ⟨m, rest, htext, hmark, hgroup⟩ := Literal.splitPiece?_letters hpiece ⟨hbytes, hformatted⟩
  obtain ⟨more, hmore⟩ := hwithin
  have hbreak : '\n' ∉ p.letters ++ [m] := by
    intro hmem
    rcases List.mem_append.1 hmem with hmem | hmem
    · exact absurd (hgroup.isMarkerLetter_of_mem hmem) (by decide)
    · obtain rfl := List.mem_singleton.1 hmem
      exact absurd hmark (by decide)
  obtain ⟨rest', rfl, -⟩ := Text.exists_append_of_unifyTerminators (w := p.letters ++ [m])
    (u := rest ++ more) (by rw [← hmore, htext]; simp) hbreak
  exact ⟨p.letters, m, rest', by simp, hmark, hgroup⟩

/-- The letters in front of the literal are those of a plain piece. -/
theorem isPlainGroup : Literal.IsPlainGroup (lit.takeWhile Literal.isMarkerLetter) := by
  obtain ⟨letters, m, rest, rfl, hmark, hgroup⟩ := h.exists_start
  have hnot : Literal.isMarkerLetter m = false := by
    rcases Literal.isMark_cases hmark with rfl | rfl <;> rfl
  rw [List.takeWhile_append_of_pos fun l hl => hgroup.isMarkerLetter_of_mem hl,
    List.takeWhile_cons_of_neg (by simp [hnot]), List.append_nil]
  exact hgroup

/-- The literal begins with a quote or a letter. -/
theorem exists_head : ∃ c lit', lit = c :: lit' ∧
    (Literal.isMark c = true ∨ Literal.isMarkerLetter c = true) := by
  obtain ⟨letters, m, rest, rfl, hmark, hgroup⟩ := h.exists_start
  cases letters with
  | nil => exact ⟨m, rest, rfl, .inl hmark⟩
  | cons l letters =>
    exact ⟨l, _, rfl, .inr (hgroup.isMarkerLetter_of_mem (List.mem_cons_self ..))⟩

/-- The literal ends with no line break. -/
theorem getLast?_ne : (Text.unifyTerminators (pre ++ lit)).getLast? ≠ some '\n' := by
  obtain ⟨last, hlast⟩ := h.exists_last
  obtain ⟨hstop, hcut⟩ := h.cut_stop hlast
  have hmem := List.mem_of_getLast? hlast
  obtain ⟨v, ⟨more, hmore⟩, -, hv⟩ :=
    Lexed.exists_before (l := .ofLex h.lexed) (h.isRun.subset _ hmem)
  obtain ⟨hne, hend, -⟩ := Lexed.spelled (l := .ofLex h.lexed) (h.isRun.subset _ hmem)
    (h.layout hmem)
  have hunify := Text.unifyTerminators_append hcut
  have hsame : Text.unifyTerminators (pre ++ lit) = v ++ last.text :=
    Lexed.prefix_unique (h := h.lexed)
      (by rw [← List.append_assoc, hunify]; exact List.prefix_append _ _) ⟨more, hmore⟩
      (hstop.symm.trans hv)
  rw [hsame, List.getLast?_append_of_ne_nil _ hne]
  exact hend

/-- The tokens of the source with the literal written anew. -/
theorem lex?_rewritten (hfits : Literal.FitsFor lit new value) :
    let w := ofTexts pre lit new value tokens
    ∃ before after t p, tokens = before ++ (run ++ after) ∧ w.Parts before run after ∧
      t = Token.mk .string new ⟨w.start, w.newStop⟩ ∧
      Literal.splitPiece? new = some (p, []) ∧ p.IsPlain ∧ p.value? = some value ∧
      Token.lex? (Text.unifyTerminators (pre ++ (new ++ post))) =
        some (before ++ (t :: after.map w.moved)) := by
  intro w
  obtain ⟨before, after, htokens, hbefore, hafter⟩ := h.isRun.stands
  obtain ⟨p, hplain, hvalue, hpiece⟩ := hfits.denotes.exists_piece hfits.unified
  obtain ⟨hne, hlast, hcut, hcut'⟩ := hfits.cuts pre post
  have hpiece' := hpiece [] nofun
  rw [List.append_nil] at hpiece'
  have hparts : w.Parts before run after :=
    { ne_nil := h.isRun.ne_nil
      plain := h.plain
      before := hbefore
      after := hafter
      start := fun t ht => (h.cut_start ht).1
      stop := fun t ht => (h.cut_stop ht).1 }
  refine ⟨before, after, _, p, htokens, hparts, rfl, hpiece', hplain, hvalue, ?_⟩
  have hunify : Text.unifyTerminators (pre ++ new) = Text.unifyTerminators pre ++ new := by
    have hcut : Cut pre new := by
      have h := (hfits.cuts pre []).2.2.1
      rwa [List.append_nil] at h
    rw [Text.unifyTerminators_append hcut, Text.unifyTerminators_eq_self hfits.unified]
  have hold : Text.ended (Text.unifyTerminators (pre ++ (lit ++ post))) =
      Text.unifyTerminators pre ++
        (Text.unifyTerminators lit ++ Text.ended (Text.unifyTerminators post)) := by
    obtain ⟨last, hlast⟩ := h.exists_last
    rw [← List.append_assoc, Text.unifyTerminators_append (h.cut_stop hlast).2,
      Text.ended_append h.getLast?_ne, h.unify_eq, List.append_assoc]
  have hnew : Text.ended (Text.unifyTerminators (pre ++ (new ++ post))) =
      Text.unifyTerminators pre ++ (new ++ Text.ended (Text.unifyTerminators post)) := by
    have hend : (Text.unifyTerminators pre ++ new).getLast? ≠ some '\n' := by
      rw [List.getLast?_append_of_ne_nil _ hne]
      exact hlast
    rw [← List.append_assoc, Text.unifyTerminators_append hcut', hunify, Text.ended_append hend,
      List.append_assoc]
  have hlex := h.lexed
  rw [Token.lex?_eq, hold, htokens] at hlex
  rw [Token.lex?_eq, hnew]
  have hfirst : ∃ c ∈ (Text.unifyTerminators lit).head?, ∃ c' ∈ new.head?, Swap c c' := by
    obtain ⟨c, lit', rfl, hkind⟩ := h.exists_head
    obtain ⟨c', hc', hnew⟩ := hfits.first
    have hreturn : c ≠ '\r' := by
      rintro rfl
      exact absurd hkind (by decide)
    have hhead : Text.unifyTerminators (c :: lit') = c :: Text.unifyTerminators lit' := by
      rw [Text.unifyTerminators, if_neg hreturn]
      exact fun _ hc _ => hreturn hc
    refine ⟨c, by rw [hhead]; rfl, c', hc', hkind, ?_⟩
    rcases hnew with hmark | hsame
    · exact .inr hmark
    · exact .inl (Option.some.inj hsame).symm
  refine lexAt?_rewritten (w := w) hlex h.isRun.ne_nil h.isRun.strings hbefore hafter
    hparts.start (fun t ht => ?_) hfirst hpiece rfl ?_ ?_
  · rw [← h.unify_eq]
    exact hparts.stop t ht
  · rw [← h.unify_eq]
    rfl
  · rw [← hunify]
    rfl

/-- The tree of the source with the literal written anew. -/
theorem ofSource?_rewritten (hfits : Literal.FitsFor lit new value) {n : Node}
    (hn : Node.ofSource? (pre ++ (lit ++ post)) = some n) :
    ∃ n', Node.ofSource? (pre ++ (new ++ post)) = some n' ∧
      List.Forall₂ (ofTexts pre lit new value tokens).SiteMaps n.calls n'.calls := by
  obtain ⟨before, after, t, p, htokens, hparts, rfl, hpiece, hplain, hvalue, hlex⟩ :=
    h.lex?_rewritten hfits
  have hmaps : (ofTexts pre lit new value tokens).TokensMap (Lexed.ofLex h.lexed).tokens
      (Lexed.ofLex hlex).tokens :=
    tokensMap_rewritten htokens hparts rfl rfl rfl hpiece hplain.1 hplain.2 hvalue
  have horigin : ∀ t : Text, Position.origin ≤ Position.origin.after t := Position.le_after _
  obtain ⟨tokens', hlexed, hn⟩ := Option.bind_eq_some_iff.1 hn
  obtain rfl : tokens = tokens' := Option.some.inj (h.lexed.symm.trans hlexed)
  obtain ⟨⟨m, s⟩, hfile, heq⟩ := Option.bind_eq_some_iff.1 hn
  obtain rfl : m = n := Option.some.inj heq
  obtain ⟨n', s', hfile', hcalls⟩ := file_rewritten hmaps (Lexed.costs_lt h.lexed)
    (Lexed.costs_lt hlex) (horigin _) (horigin _) (horigin _) hfile
  exact ⟨n', Option.bind_eq_some_iff.2 ⟨_, hlex, Option.bind_eq_some_iff.2 ⟨(n', s'), hfile', rfl⟩⟩,
    hcalls⟩

end Original

end Rewriting

end TextDomain
