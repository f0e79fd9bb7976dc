import TextDomain.Proofs.Rewriting.Statement

/-!
# Sources that are read alike

The grammar of some depth reads its phrases through the grammar of the depth below, and
between one use and the next a token is taken. So two grammars read alike what costs less
than both are deep. The depth at which a source is read exceeds what its tokens cost, and
the files of two sources whose tokens correspond are read alike.

## Main results

* `inner_grammar` — grammars that are deep enough read alike.
* `file_agrees` — so are whole files.
-/

namespace TextDomain

namespace Parser

/-- The rules read alike if the grammars inside do. -/
theorem rules_agree {n : Nat} {g g' : Grammar} (hg : Ahead n g g') (w : Rewriting)
    (goal : Goal) : Agrees w n 1 w.NodeMaps (rules g goal) (rules g' goal) := by
  cases goal with
  | expression => exact expression_agrees w hg.toInner
  | disjunction => exact disjunction_agrees w hg.toInner
  | inversion => exact inversion_agrees w hg.toInner
  | bitwiseOr => exact bitwiseOr_agrees w hg.toInner
  | factor => exact factor_agrees w hg.toInner
  | primary => exact primary_agrees w hg.toInner
  | starExpressions => exact starExpressions_agrees w hg
  | block => exact block_agrees w hg
  | pattern => exact pattern_agrees w hg.toInner

theorem expression_deep {n d d' : Nat} (hg : Inner n (grammar d) (grammar d')) (w : Rewriting) :
    Agrees w n 1 w.NodeMaps (grammar (d + 1) .expression) (grammar (d' + 1) .expression) :=
  expression_agrees w hg

/-- Grammars that are at least as deep as the streams may cost read alike what is cheaper by
a token. -/
theorem inner_grammar {n d d' : Nat} (hd : n ≤ d) (hd' : n ≤ d') :
    Inner n (grammar d) (grammar d') := by
  induction n using Nat.strongRecOn generalizing d d' with
  | ind n ih =>
    refine ⟨fun m hm => ⟨fun w goal => ?_, faithful_grammar d⟩, faithful_grammar d⟩
    -- The rules are those over the grammars below, and expressions are read by two levels.
    obtain ⟨d, rfl⟩ : ∃ e, d = e + 2 := ⟨d - 2, by omega⟩
    obtain ⟨d', rfl⟩ : ∃ e, d' = e + 2 := ⟨d' - 2, by omega⟩
    have hinner : Inner m (grammar (d + 1)) (grammar (d' + 1)) :=
      ih m (by omega) (by omega) (by omega)
    have hbelow : Inner m (grammar d) (grammar d') := ih m (by omega) (by omega) (by omega)
    exact rules_agree ⟨hinner, expression_deep hbelow⟩ w goal

theorem ahead_grammar {n d d' : Nat} (hd : n < d) (hd' : n < d') :
    Ahead n (grammar d) (grammar d') := by
  refine ⟨inner_grammar hd.le hd'.le, ?_⟩
  obtain ⟨d, rfl⟩ : ∃ e, d = e + 1 := ⟨d - 1, by omega⟩
  obtain ⟨d', rfl⟩ : ∃ e, d' = e + 1 := ⟨d' - 1, by omega⟩
  exact expression_deep (inner_grammar (by omega) (by omega))

/-- Whole files are read alike. -/
theorem file_agrees {n d d' : Nat} (hd : n < d) (hd' : n < d') (w : Rewriting) :
    Agrees w n 0 w.NodeMaps (file d) (file d') := by
  refine .compound .other ?_
  refine (statements_agrees w (ahead_grammar hd hd')).bind fun _ _ hnodes => ?_
  exact (Agrees.ofKind (k := .finish) (by decide)).finish fun _ _ _ => hnodes

end Parser

end TextDomain
