import TextDomain.Proofs.Rewriting.File
import TextDomain.Proofs.Rewriting.Relexed

/-!
# Sources with a literal written anew

The tokens of a source are those in front of a literal, the run that it consists of, and those
behind it. With the run in the place of which another token stands, and what follows moved, the
tokens correspond to those of the new source, and so do the calls of the two files.

The two files are read at depths of their own. A file that is read at two depths that are
enough has the same calls, which is the case in which nothing is written anew.

## Main results

* `tokensMap_rewritten` — the tokens correspond.
* `file_reread` — a file has the same calls at every depth that is enough.
* `file_rewritten` — the calls of both files correspond.
-/

namespace TextDomain

open Token (Lexed costs)

/-! ## Tokens in order -/

namespace Token

theorem Runs.pairwise {p : Position} {ts : List Token} (h : Runs p ts) :
    ts.Pairwise fun t u => t.extent.stop ≤ u.extent.start := by
  induction h with
  | nil => exact .nil
  | cons _ _ rest ih => exact .cons (fun u hu => rest.le_start hu) ih

namespace Lexed

variable {l : Lexed} {t : Token}

/-- The position at the end of the text. -/
def stop (l : Lexed) : Position := l.origin.after l.text

theorem stop_le (ht : t ∈ l.tokens) : t.extent.stop ≤ l.stop := by
  obtain ⟨pre, ⟨more, hmore⟩, -, hstop⟩ := exists_before ht
  rw [hstop, stop, ← hmore, Position.after_append _ (pre ++ t.text)]
  exact Position.le_after _ _

theorem lt_stop_of_inside {p : Position} (h : l.Inside p) : p < l.stop := by
  obtain ⟨pre, ⟨more, hmore⟩, hproper, rfl⟩ := h
  have hne : more ≠ [] := by
    rintro rfl
    exact hproper (by rw [← hmore, List.append_nil])
  rw [stop, ← hmore, Position.after_append]
  exact Position.lt_after hne

end Lexed

end Token

namespace Rewriting

variable {w : Rewriting} {tokens before run after r : List Token} {l : Lexed}

/-! ## Where literals stand -/

/-- A literal stands where a run of plain string tokens does, or within a string token. -/
inductive Spot (tokens : List Token) (e : Extent) : Prop where
  /-- It consists of the pieces of a run. -/
  | whole {r : List Token} {first last : Token} (run : IsRun tokens r)
      (plain : ∀ t ∈ r, IsPlainToken t) (first_mem : first ∈ r.head?) (last_mem : last ∈ r.getLast?)
      (extent : e = ⟨first.extent.start, last.extent.stop⟩) : Spot tokens e
  /-- It stands in a replacement field. -/
  | enclosed {t : Token} (mem : t ∈ tokens) (formatted : IsFormattedToken t)
      (start : t.extent.start < e.start) (stop : e.stop ≤ t.extent.stop) : Spot tokens e

theorem runSpots_of_isRun (hspots : w.spots = Spot tokens) (h : IsRun tokens r) :
    w.RunSpots r where
  whole := by
    intro hplain first hfirst last hlast
    rw [hspots]
    exact .whole h hplain hfirst hlast rfl
  fields := by
    intro t ht hformatted e hstart hstop
    rw [hspots]
    exact .enclosed (h.subset t ht) hformatted hstart hstop

/-- A literal ends in front of the end of the text. -/
theorem Spot.stop_lt {e : Extent} (h : Spot l.tokens e) : e.stop < l.stop := by
  have hstring : ∀ t ∈ l.tokens, t.kind = .string → t.extent.stop < l.stop := fun t ht hkind =>
    Lexed.lt_stop_of_inside (Lexed.inside_stop ht (by rw [hkind]; rfl))
  cases h with
  | whole run _ _ last_mem extent =>
    rw [extent]
    have hlast := List.mem_of_getLast? last_mem
    exact hstring _ (run.subset _ hlast) (run.strings _ hlast)
  | enclosed mem formatted _ stop => exact stop.trans_lt (hstring _ mem formatted.1)

/-! ## Sources that stay as they are -/

/-- Nothing is written anew. -/
def unmoved (l : Lexed) : Rewriting :=
  still ⟨l.stop, l.stop, l.stop, [], Spot l.tokens⟩ l.stop

theorem tokensMap_unmoved (l : Lexed) : (unmoved l).TokensMap l.tokens l.tokens := by
  have hmap : (unmoved l).TokensMap (l.tokens ++ []) (l.tokens.map id ++ []) := by
    refine tokensMap_append id [] l.tokens [] [] nofun (fun _ _ => rfl) ?_ ?_
      (fun _ _ _ => ⟨not_stringNext_nil, not_stringNext_nil⟩) .nil
    · intro t ht _
      have hstop := Lexed.stop_le ht
      have hstart : t.extent.start ≤ l.stop := by
        rw [Lexed.stop_eq ht] at hstop
        exact (Position.le_after _ _).trans hstop
      exact ⟨rfl, rfl, .inl ⟨hstart, rfl⟩, .inl ⟨hstop, rfl⟩⟩
    · intro r hr hrun
      rw [List.map_id]
      rw [List.nil_append, List.append_nil] at hrun
      refine ⟨.kept fun t ht => ?_, runSpots_of_isRun rfl hrun⟩
      have hmem := hr t ht
      have hlt := Lexed.start_lt_stop hmem (by rw [hrun.strings t ht]; rfl)
      exact ⟨hlt.trans_le (Lexed.stop_le hmem), Lexed.stop_le hmem, Lexed.stop_eq hmem⟩
  simpa only [List.append_nil, List.map_id] using hmap

/-- Both calls look alike to the linter. -/
structure SameSite (c c' : Node.CallSite) : Prop where
  extent : c'.extent = c.extent
  name : c'.callee.name? = c.callee.name?
  arguments : List.Forall₂ (fun n n' => n'.extent = n.extent ∧ n'.literal? = n.literal?)
    c.arguments c'.arguments

theorem extent_of_unmoved {e e' : Extent} (h : (unmoved l).ExtentMaps e e') : e' = e := by
  have hstart := maps_still h.start
  have hstop := maps_still h.stop
  obtain ⟨_, _⟩ := e
  obtain ⟨_, _⟩ := e'
  rw [Extent.mk.injEq]
  exact ⟨hstart, hstop⟩

theorem sameSite_of_unmoved {c c' : Node.CallSite} (h : (unmoved l).SiteMaps c c') :
    SameSite c c' where
  extent := extent_of_unmoved h.extent
  name := h.name.symm
  arguments := h.arguments.imp fun n n' hn => by
    refine ⟨extent_of_unmoved hn.extent, ?_⟩
    rw [hn.literal]
    cases hliteral : n.literal? with
    | none => rfl
    | some v =>
      have hspot : Spot l.tokens n.extent := hn.spot (by rw [hliteral]; rfl)
      exact congrArg some (if_neg fun hboth => hspot.stop_lt.ne hboth.2)

/-! ## A literal written anew -/

/-- The run of string tokens in the middle is what is written anew. -/
structure Parts (w : Rewriting) (before run after : List Token) : Prop where
  ne_nil : run ≠ []
  plain : ∀ t ∈ run, IsPlainToken t
  before : ∀ t ∈ before.getLast?, t.kind ≠ .string
  after : ¬ StringNext after
  start : ∀ t ∈ run.head?, t.extent.start = w.start
  stop : ∀ t ∈ run.getLast?, t.extent.stop = w.oldStop

theorem mem_tokens_of_parts (htokens : l.tokens = before ++ (run ++ after)) {u : Token}
    (hu : u ∈ before ∨ u ∈ after) : u ∈ l.tokens := by
  rw [htokens]
  rcases hu with hu | hu
  · exact List.mem_append_left _ hu
  · exact List.mem_append_right _ (List.mem_append_right _ hu)

namespace Parts

variable (h : w.Parts before run after) (htokens : l.tokens = before ++ (run ++ after))

include h htokens

/-- Tokens in front of the run end where it begins at the latest. -/
theorem stop_le {u : Token} (hu : u ∈ before) : u.extent.stop ≤ w.start := by
  have hpairs := l.runs.pairwise
  rw [htokens] at hpairs
  obtain ⟨-, -, hcross⟩ := List.pairwise_append.1 hpairs
  have hfirst := List.head?_eq_some_head h.ne_nil
  rw [← h.start _ hfirst]
  exact hcross u hu _ (List.mem_append_left _ (List.mem_of_head? hfirst))

/-- Tokens behind the run begin where it ends at the earliest. -/
theorem le_start {u : Token} (hu : u ∈ after) : w.oldStop ≤ u.extent.start := by
  have hpairs := l.runs.pairwise
  rw [htokens] at hpairs
  obtain ⟨-, -, hcross⟩ := List.pairwise_append.1 (List.pairwise_append.1 hpairs).2.1
  have hlast := List.getLast?_eq_some_getLast h.ne_nil
  rw [← h.stop _ hlast]
  exact hcross _ (List.mem_of_getLast? hlast) u hu

/-- Tokens in front of the run stay. -/
theorem tokenMaps_before {u : Token} (hu : u ∈ before) : w.TokenMaps u u := by
  have hstop := h.stop_le htokens hu
  have hstart : u.extent.start ≤ w.start := by
    rw [Lexed.stop_eq (mem_tokens_of_parts htokens (.inl hu))] at hstop
    exact (Position.le_after _ _).trans hstop
  exact ⟨rfl, rfl, .inl ⟨hstart, rfl⟩, .inl ⟨hstop, rfl⟩⟩

/-- Tokens behind the run are moved. -/
theorem tokenMaps_after {u : Token} (hu : u ∈ after) : w.TokenMaps u (w.moved u) := by
  have hstart := h.le_start htokens hu
  have hstop : w.oldStop ≤ u.extent.stop := by
    rw [Lexed.stop_eq (mem_tokens_of_parts htokens (.inr hu))]
    exact hstart.trans (Position.le_after _ _)
  exact ⟨rfl, rfl, .inr ⟨hstart, rfl⟩, .inr ⟨hstop, rfl⟩⟩

/-- A token of the new text is the literal, or it has come from one of the old text. -/
theorem exists_of_mem {t u : Token} (hu : u ∈ before ++ (t :: after.map w.moved)) :
    u = t ∨ ∃ v ∈ l.tokens, w.TokenMaps v u := by
  rcases List.mem_append.1 hu with hu | hu
  · exact .inr ⟨u, mem_tokens_of_parts htokens (.inl hu), h.tokenMaps_before htokens hu⟩
  · rcases List.mem_cons.1 hu with rfl | hu
    · exact .inl rfl
    · obtain ⟨v, hv, rfl⟩ := List.mem_map.1 hu
      exact .inr ⟨v, mem_tokens_of_parts htokens (.inr hv), h.tokenMaps_after htokens hv⟩

end Parts

theorem tokensMap_rewritten (htokens : l.tokens = before ++ (run ++ after))
    (h : w.Parts before run after) (hspots : w.spots = Spot l.tokens) {t : Token}
    {p : Literal.Piece} {rest : Text} (kind : t.kind = .string)
    (extent : t.extent = ⟨w.start, w.newStop⟩) (piece : Literal.splitPiece? t.text = some (p, rest))
    (isBytes : p.isBytes = false) (isFormatted : p.isFormatted = false)
    (value : p.value? = some w.value) :
    w.TokensMap l.tokens (before ++ (t :: after.map w.moved)) := by
  have hmem : ∀ u, u ∈ before ∨ u ∈ after → u ∈ l.tokens := fun u => mem_tokens_of_parts htokens
  rw [htokens]
  have hnext : ¬ StringNext (after.map w.moved) := by
    rintro ⟨u, hu, hstring⟩
    rw [List.head?_map] at hu
    obtain ⟨v, hv, rfl⟩ := Option.map_eq_some_iff.1 hu
    exact h.after ⟨v, hv, hstring⟩
  have hafter : w.TokensMap after (after.map w.moved) := by
    have hmap : w.TokensMap (after ++ []) (after.map w.moved ++ []) := by
      refine tokensMap_append w.moved (before ++ run) after [] [] (fun _ _ _ => by
        rw [List.append_nil]; exact h.after) (fun _ _ => rfl)
        (fun u hu _ => h.tokenMaps_after htokens hu) ?_
        (fun _ _ _ => ⟨not_stringNext_nil, not_stringNext_nil⟩) .nil
      intro r hr hrun
      rw [List.append_nil, List.append_assoc, ← htokens] at hrun
      exact ⟨.moved fun u hu =>
          ⟨h.le_start htokens (hr u hu), Lexed.stop_eq (hmem u (.inr (hr u hu)))⟩,
        runSpots_of_isRun hspots hrun⟩
    simpa only [List.append_nil] using hmap
  have hisRun : IsRun l.tokens run :=
    ⟨h.ne_nil, fun u hu => (h.plain u hu).1, before, after, htokens, h.before, h.after⟩
  have hrun : w.TokensMap (run ++ after) (t :: after.map w.moved) := by
    have hfirst := List.head?_eq_some_head h.ne_nil
    have hlast := List.getLast?_eq_some_getLast h.ne_nil
    exact .run hisRun.strings (List.forall_mem_singleton.2 kind) h.ne_nil
      (List.cons_ne_nil t []) h.after hnext
      (.rewritten (by rw [hfirst]; exact congrArg some (h.start _ hfirst))
        (by rw [hlast]; exact congrArg some (h.stop _ hlast)) h.plain kind extent piece isBytes
        isFormatted value) (runSpots_of_isRun hspots hisRun) hafter
  have hmap := tokensMap_append (w := w) id [] before (run ++ after) (t :: after.map w.moved) nofun
    (fun _ _ => rfl) (fun u hu _ => h.tokenMaps_before htokens hu) ?_
    (fun u hu hstring => absurd hstring (h.before u hu)) hrun
  · simpa only [List.map_id] using hmap
  · intro r hr hrun
    rw [List.map_id]
    rw [List.nil_append, ← htokens] at hrun
    refine ⟨.kept fun u hu => ?_, runSpots_of_isRun hspots hrun⟩
    have hu' := hmem u (.inl (hr u hu))
    have hstop := h.stop_le htokens (hr u hu)
    have hlt := Lexed.start_lt_stop hu' (by rw [hrun.strings u hu]; rfl)
    exact ⟨hlt.trans_le hstop, hstop, Lexed.stop_eq hu'⟩

/-! ## Files -/

theorem forall₂_comp {α β γ : Type} {R : α → β → Prop} {S : β → γ → Prop} {T : α → γ → Prop}
    (hcomp : ∀ a b c, R a b → S b c → T a c) {as : List α} {bs : List β} {cs : List γ}
    (h : List.Forall₂ R as bs) (h' : List.Forall₂ S bs cs) : List.Forall₂ T as cs := by
  induction h generalizing cs with
  | nil =>
    cases h'
    exact .nil
  | cons hr _ ih =>
    cases h' with
    | cons hs hss => exact .cons (hcomp _ _ _ hr hs) (ih hss)

theorem SiteMaps.of_same {c₁ c₂ c₃ : Node.CallSite} (h : SameSite c₁ c₂)
    (hmaps : w.SiteMaps c₂ c₃) : w.SiteMaps c₁ c₃ where
  extent := h.extent ▸ hmaps.extent
  name := h.name ▸ hmaps.name
  arguments := forall₂_comp (fun _ _ _ hsame ha => by
    obtain ⟨he, hl⟩ := hsame
    exact ⟨he ▸ ha.extent, by rw [← he, ← hl]; exact ha.literal, by rw [← he, ← hl]; exact ha.spot⟩)
    h.arguments hmaps.arguments

theorem SiteMaps.to_same {c₁ c₂ c₃ : Node.CallSite} (hmaps : w.SiteMaps c₁ c₂)
    (h : SameSite c₂ c₃) : w.SiteMaps c₁ c₃ where
  extent := h.extent.symm ▸ hmaps.extent
  name := hmaps.name.trans h.name.symm
  arguments := forall₂_comp (fun _ _ _ ha hsame =>
    ⟨hsame.1.symm ▸ ha.extent, hsame.2.trans ha.literal, ha.spot⟩) hmaps.arguments h.arguments

/-- The file is read alike at every depth that exceeds what its tokens cost. -/
theorem file_reread {d d' : Nat} (hd : costs l.tokens < d) (hd' : costs l.tokens < d')
    {p : Position} (hp : p ≤ l.stop) {n : Node} {s : TokenStream}
    (h : Parser.file d ⟨l.tokens, p⟩ = some (n, s)) :
    ∃ n' s', Parser.file d' ⟨l.tokens, p⟩ = some (n', s') ∧
      List.Forall₂ (unmoved l).SiteMaps n.calls n'.calls := by
  have hread := Parser.file_agrees hd hd' (unmoved l)
    (⟨tokensMap_unmoved l, .inl ⟨hp, rfl⟩⟩ : (unmoved l).StreamMaps ⟨l.tokens, p⟩ ⟨l.tokens, p⟩)
    (Nat.le_refl _) (Nat.le_refl _)
  rw [h] at hread
  generalize Parser.file d' ⟨l.tokens, p⟩ = b at hread
  cases hread with
  | read hnode _ _ _ => exact ⟨_, _, rfl, hnode.calls⟩

/-- The files of two texts whose tokens correspond are read alike. -/
theorem file_rewritten {l' : Lexed} (hmaps : w.TokensMap l.tokens l'.tokens) {d d' : Nat}
    (hd : costs l.tokens < d) (hd' : costs l'.tokens < d') {p : Position} (hp : p ≤ w.start)
    (hl : p ≤ l.stop) (hl' : p ≤ l'.stop) {n : Node} {s : TokenStream}
    (h : Parser.file d ⟨l.tokens, p⟩ = some (n, s)) :
    ∃ n' s', Parser.file d' ⟨l'.tokens, p⟩ = some (n', s') ∧
      List.Forall₂ w.SiteMaps n.calls n'.calls := by
  -- Both are compared at a depth that is enough for either.
  have hdeep : max (costs l.tokens) (costs l'.tokens) < max d d' := by omega
  obtain ⟨n₁, s₁, h₁, hcalls⟩ := file_reread hd (show costs l.tokens < max d d' by omega) hl h
  have hread := Parser.file_agrees hdeep hdeep w
    (⟨hmaps, .inl ⟨hp, rfl⟩⟩ : w.StreamMaps ⟨l.tokens, p⟩ ⟨l'.tokens, p⟩)
    (Nat.le_max_left ..) (Nat.le_max_right ..)
  rw [h₁] at hread
  generalize h₂ : Parser.file (max d d') ⟨l'.tokens, p⟩ = b at hread
  cases hread with
  | @read _ n₂ _ s₂ hnode _ _ _ =>
    obtain ⟨n', s', h', hcalls'⟩ := file_reread (d := max d d') (by omega) hd' hl' h₂
    have hbefore : List.Forall₂ SameSite n.calls n₁.calls :=
      hcalls.imp fun _ _ => sameSite_of_unmoved
    have hafter : List.Forall₂ SameSite n₂.calls n'.calls :=
      hcalls'.imp fun _ _ => sameSite_of_unmoved
    exact ⟨n', s', h', forall₂_comp (fun _ _ _ => .of_same) hbefore
      (forall₂_comp (fun _ _ _ => .to_same) hnode.calls hafter)⟩

end Rewriting

end TextDomain
