import TextDomain.Proofs.Rewriting.Basic

/-!
# Runs of string tokens

Where each token of a part of the source has become another one of its kind, the tokens of
that part correspond as soon as the ones that are no strings do, and the runs of strings
between them. A run is as long as it can be.

## Main results

* `tokensMap_append` — tokens that have become others one by one.
-/

namespace TextDomain

namespace Rewriting

variable {w : Rewriting}

/-- String tokens side by side, with no string token before or behind them. -/
structure IsRun (ts r : List Token) : Prop where
  ne_nil : r ≠ []
  strings : ∀ t ∈ r, t.kind = .string
  stands : ∃ before after, ts = before ++ (r ++ after) ∧
    (∀ t ∈ before.getLast?, t.kind ≠ .string) ∧ ¬ StringNext after

theorem not_stringNext_nil : ¬ StringNext [] := by
  rintro ⟨t, ht, -⟩
  cases ht

theorem stringNext_cons {t : Token} {ts : List Token} :
    StringNext (t :: ts) ↔ t.kind = .string :=
  ⟨fun ⟨_, ht, hkind⟩ => Option.some.inj ht ▸ hkind, fun hkind => ⟨t, rfl, hkind⟩⟩

/-- Tokens begin with all the strings up to the first token that is none. -/
theorem exists_strings (ts : List Token) :
    ∃ run us, ts = run ++ us ∧ (∀ t ∈ run, t.kind = .string) ∧ ¬ StringNext us := by
  induction ts with
  | nil => exact ⟨[], [], rfl, List.forall_mem_nil _, not_stringNext_nil⟩
  | cons t ts ih =>
    by_cases ht : t.kind = .string
    · obtain ⟨run, us, rfl, hrun, hnext⟩ := ih
      exact ⟨t :: run, us, rfl, List.forall_mem_cons.2 ⟨ht, hrun⟩, hnext⟩
    · exact ⟨[], t :: ts, rfl, List.forall_mem_nil _, fun h => ht (stringNext_cons.1 h)⟩

/-- A run ends where the strings do. -/
theorem eq_of_append_eq {r r' after after' : List Token} (hr : ∀ t ∈ r, t.kind = .string)
    (hr' : ∀ t ∈ r', t.kind = .string) (hafter : ¬ StringNext after) (hafter' : ¬ StringNext after')
    (h : r ++ after = r' ++ after') : r = r' := by
  rcases List.append_eq_append_iff.1 h with ⟨x, rfl, rfl⟩ | ⟨x, rfl, rfl⟩
  · cases x with
    | nil => rw [List.append_nil]
    | cons t x => exact absurd (stringNext_cons.2 (hr' t (by simp))) hafter
  · cases x with
    | nil => rw [List.append_nil]
    | cons t x => exact absurd (stringNext_cons.2 (hr t (by simp))) hafter'

namespace IsRun

variable {ts r r' : List Token}

theorem subset (h : IsRun ts r) : ∀ t ∈ r, t ∈ ts := by
  obtain ⟨before, after, rfl, -, -⟩ := h.stands
  intro t ht
  exact List.mem_append_right _ (List.mem_append_left _ ht)

/-- Of two runs that begin at different places, the one ends before the other begins. -/
theorem eq_or_prefix {before after before' after' x : List Token} (h : IsRun ts r)
    (h' : IsRun ts r') (hbefore : ∀ t ∈ before'.getLast?, t.kind ≠ .string)
    (hafter : ¬ StringNext after) (hafter' : ¬ StringNext after') (hx : before' = before ++ x)
    (heq : r ++ after = x ++ (r' ++ after')) : r = r' ∨ r <+: x := by
  rcases List.eq_nil_or_concat x with rfl | ⟨x, t, rfl⟩
  · exact .inl (eq_of_append_eq h.strings h'.strings hafter hafter' heq)
  · rcases List.append_eq_append_iff.1 heq with ⟨y, hy, -⟩ | ⟨y, rfl, -⟩
    · exact .inr ⟨y, hy.symm⟩
    · have ht : t ∈ before'.getLast? := by
        rw [hx, List.concat_eq_append, ← List.append_assoc, List.getLast?_concat]
        rfl
      exact absurd (h.strings t (by simp)) (hbefore t ht)

/-- Two runs are the same, or all of the one stands in front of the other. -/
theorem eq_or_apart (h : IsRun ts r) (h' : IsRun ts r') :
    r = r' ∨ ∃ a b, ts = a ++ b ∧
      ((∀ t ∈ r, t ∈ a) ∧ (∀ t ∈ r', t ∈ b) ∨ (∀ t ∈ r', t ∈ a) ∧ ∀ t ∈ r, t ∈ b) := by
  obtain ⟨before, after, hts, hbefore, hafter⟩ := h.stands
  obtain ⟨before', after', hts', hbefore', hafter'⟩ := h'.stands
  rcases List.append_eq_append_iff.1 (hts.symm.trans hts') with ⟨x, hx, heq⟩ | ⟨x, hx, heq⟩
  · rcases h.eq_or_prefix h' hbefore' hafter hafter' hx heq with hsame | ⟨y, rfl⟩
    · exact .inl hsame
    · refine .inr ⟨before', r' ++ after', hts', .inl ⟨fun t ht => ?_, fun t ht => by simp [ht]⟩⟩
      rw [hx]
      simp [ht]
  · rcases h'.eq_or_prefix h hbefore hafter' hafter hx heq with hsame | ⟨y, rfl⟩
    · exact .inl hsame.symm
    · refine .inr ⟨before, r ++ after, hts, .inr ⟨fun t ht => ?_, fun t ht => by simp [ht]⟩⟩
      rw [hx]
      simp [ht]

end IsRun

/-- Tokens that have become others one by one correspond if their runs do. The tokens behind
them are given, and so are those before them, which a run could be part of. -/
theorem tokensMap_append (f : Token → Token) (before ts rest rest' : List Token)
    (hbefore : ∀ t ∈ before.getLast?, t.kind = .string → ¬ StringNext (ts ++ rest))
    (hkind : ∀ t ∈ ts, (f t).kind = t.kind)
    (hother : ∀ t ∈ ts, t.kind ≠ .string → w.TokenMaps t (f t))
    (hrun : ∀ r, (∀ t ∈ r, t ∈ ts) → IsRun (before ++ (ts ++ rest)) r →
      w.RunMaps r (r.map f) ∧ w.RunSpots r)
    (hends : ∀ t ∈ ts.getLast?, t.kind = .string → ¬ StringNext rest ∧ ¬ StringNext rest')
    (hrest : w.TokensMap rest rest') : w.TokensMap (ts ++ rest) (ts.map f ++ rest') := by
  -- The induction is on the number of tokens: a whole run is taken at once.
  induction hn : ts.length using Nat.strongRecOn generalizing before ts with
  | ind n ih =>
    cases ts with
    | nil => exact hrest
    | cons t ts =>
      subst hn
      by_cases ht : t.kind = .string
      · obtain ⟨run, us, rfl, hmore, hnext⟩ := exists_strings ts
        have hstrings : ∀ u ∈ t :: run, u.kind = .string := List.forall_mem_cons.2 ⟨ht, hmore⟩
        have hmem : ∀ u ∈ t :: run, u ∈ t :: (run ++ us) := fun u hu =>
          List.mem_append_left us (show u ∈ t :: run from hu)
        have hmem' : ∀ u ∈ us, u ∈ t :: (run ++ us) := fun u hu =>
          List.mem_append_right (t :: run) hu
        have hstop : ¬ StringNext (us ++ rest) ∧ ¬ StringNext (us.map f ++ rest') := by
          cases us with
          | nil =>
            obtain ⟨last, hlast⟩ : ∃ last, (t :: run).getLast? = some last :=
              ⟨_, List.getLast?_eq_some_getLast (List.cons_ne_nil t run)⟩
            refine hends last ?_ (hstrings last (List.mem_of_getLast? hlast))
            rw [List.append_nil]
            exact hlast
          | cons u us =>
            have hu : u.kind ≠ .string := fun hu => hnext (stringNext_cons.2 hu)
            refine ⟨fun h => hu (stringNext_cons.1 h), fun h => hu ?_⟩
            rw [← hkind u (hmem' u (List.mem_cons_self ..))]
            exact stringNext_cons.1 h
        obtain ⟨hmaps, hspots⟩ := hrun (t :: run) hmem ⟨List.cons_ne_nil t run, hstrings, before,
          us ++ rest, by simp, fun u hu hstring => hbefore u hu hstring (stringNext_cons.2 ht),
          hstop.1⟩
        have hmapped : ∀ u ∈ (t :: run).map f, u.kind = .string := by
          intro u hu
          obtain ⟨v, hv, rfl⟩ := List.mem_map.1 hu
          rw [hkind v (hmem v hv)]
          exact hstrings v hv
        have hrest : w.TokensMap (us ++ rest) (us.map f ++ rest') := by
          have hbefore : ∀ u ∈ (before ++ (t :: run)).getLast?, u.kind = .string →
              ¬ StringNext (us ++ rest) := fun _ _ _ => hstop.1
          refine ih us.length ?_ _ us hbefore (fun u hu => hkind u (hmem' u hu))
            (fun u hu => hother u (hmem' u hu)) ?_ ?_ rfl
          · simp only [List.length_cons, List.length_append]
            omega
          · intro r hr hisRun
            refine hrun r (fun u hu => hmem' u (hr u hu)) ?_
            simpa only [List.append_assoc, List.cons_append] using hisRun
          · intro u hu
            refine hends u ?_
            rw [← List.cons_append, List.getLast?_append, hu]
            rfl
        have hwhole := TokensMap.run hstrings hmapped (List.cons_ne_nil t run)
          (List.cons_ne_nil (f t) (run.map f)) hstop.1
          hstop.2 hmaps hspots hrest
        simpa only [List.cons_append, List.append_assoc, List.map_cons, List.map_append]
          using hwhole
      · refine .other ht (hother t (List.mem_cons_self ..) ht) ?_
        have hbefore : ∀ u ∈ (before ++ [t]).getLast?, u.kind = .string →
            ¬ StringNext (ts ++ rest) := by
          intro u hu hstring
          rw [List.getLast?_append] at hu
          obtain rfl : t = u := Option.some.inj hu
          exact absurd hstring ht
        refine ih ts.length (Nat.lt_succ_self _) _ ts hbefore
          (fun u hu => hkind u (List.mem_cons_of_mem t hu))
          (fun u hu => hother u (List.mem_cons_of_mem t hu)) ?_ ?_ rfl
        · intro r hr hisRun
          refine hrun r (fun u hu => List.mem_cons_of_mem t (hr u hu)) ?_
          simpa only [List.append_assoc, List.cons_append, List.nil_append] using hisRun
        · intro u hu
          refine hends u ?_
          rw [List.getLast?_cons, hu]
          rfl

end Rewriting

end TextDomain
