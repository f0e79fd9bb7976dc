import TextDomain.Lint
import TextDomain.Proofs.Grammar.Statement
import TextDomain.Proofs.Source.Record

/-!
# The contract between trees and the rule

Records are built under a contract: spans inside the text, arguments in source
order, fixes that can be placed. A tree keeps it if its calls and their arguments
stand in the text with neighbouring arguments apart; then every call gives a
record, and checking the records does not fail, whatever the policy is.

The trees of the grammar keep the contract. Linting therefore fails only where
there is no tree.

## Main results

* `Node.placed_of_ofSource?`, `Node.nested_of_ofSource?` — the tree of a source is placed
  in it, and its calls lead those inside them.
* `lint_keeps_contract` — placed trees are recorded and checked, and linting
  fails only for sources without a tree.
-/

namespace TextDomain

open Token (Lexed)

/-! ## Trees of sources -/

variable {text : Text}

/-- The tree of a source lies in a text, the positions of which stand in the source. -/
theorem Node.exists_holds_of_ofSource? {n : Node} (h : Node.ofSource? text = some n) :
    ∃ l : Lexed, (∀ p, l.Inside p → ∃ i, p.StandsAt text i) ∧ l.Holds n := by
  obtain ⟨tokens, htokens, h⟩ := Option.bind_eq_some_iff.1 h
  obtain ⟨⟨n', s⟩, hfile, heq⟩ := Option.bind_eq_some_iff.1 h
  cases heq
  obtain ⟨l, rfl, horigin, hstands⟩ := Lexed.exists_of_lex? htokens
  rw [← horigin] at hfile
  obtain ⟨-, -, hholds⟩ := Parser.file_reads l _ (TokenStream.of_tokens l) hfile
  exact ⟨l, hstands, hholds⟩

/-- The tree of a source is placed in it. -/
theorem Node.placed_of_ofSource? {n : Node} (h : Node.ofSource? text = some n) :
    n.Placed text := by
  obtain ⟨l, hstands, hholds⟩ := Node.exists_holds_of_ofSource? h
  exact hholds.placed hstands

/-- In the tree of a source, every call leads the calls inside it. -/
theorem Node.nested_of_ofSource? {n : Node} (h : Node.ofSource? text = some n) : n.Nested := by
  obtain ⟨l, -, hholds⟩ := Node.exists_holds_of_ofSource? h
  exact hholds.nested

/-! ## Checking -/

/-- Checking calls does not fail if their arguments lie apart. -/
theorem exists_checkCalls_ok {calls : List Call} (h : ∀ c ∈ calls, c.Spaced) (policy : Policy) :
    ∃ ds, checkCalls policy calls = .ok ds := by
  induction calls with
  | nil => exact ⟨[], rfl⟩
  | cons c calls ih =>
    obtain ⟨hc, hcalls⟩ := List.forall_mem_cons.1 h
    obtain ⟨d?, hd⟩ := Call.Spaced.checkCall_ok (fun _ => hc) policy
    obtain ⟨ds, hds⟩ := ih hcalls
    exact ⟨d?.toList ++ ds, by rw [checkCalls, hd, hds]; rfl⟩

/-- The source of every argument is the text between its offsets. -/
def Exact (text : Text) (calls : List Call) : Prop :=
  ∀ c ∈ calls, ∀ a ∈ c.arguments,
    a.source = (text.drop a.span.start).take (a.span.stop - a.span.start) ∧
      a.source.length = a.span.stop - a.span.start

/-- The calls of a placed tree are recorded and checked. -/
theorem Node.Placed.exists_diagnostics {n : Node} (h : n.Placed text) (file : Text)
    (policy : Policy) :
    ∃ calls ds, n.records (.ofText text file) = .ok calls ∧ Exact text calls ∧
      checkCalls policy calls = .ok ds := by
  obtain ⟨calls, hcalls, hrecorded⟩ := records_of_placed h file
  obtain ⟨ds, hds⟩ := exists_checkCalls_ok (fun c hc => (hrecorded c hc).spaced) policy
  exact ⟨calls, ds, hcalls, fun c hc => (hrecorded c hc).source, hds⟩

/-- The calls of every placed tree are recorded with the exact text of their
arguments, and checking them does not fail. The tree of a source is placed in
it, so the records of a source are exact, and linting fails only for a source
that has a NUL in it or no tree. -/
theorem lint_keeps_contract (text file : Text) (policy : Policy) :
    (∀ n : Node, n.Placed text → ∃ calls ds, n.records (.ofText text file) = .ok calls ∧
      Exact text calls ∧ checkCalls policy calls = .ok ds) ∧
    (∀ n, Node.ofSource? text = some n → n.Placed text) ∧
    (∀ calls, collectCalls text file = .ok calls → Exact text calls) ∧
    ∀ e, lint text policy file = .error e →
      e = .nullByte ∧ text.contains (Char.ofNat 0) = true ∨
        e = .malformed ∧ Node.ofSource? text = none := by
  have hplaced : ∀ n : Node, n.Placed text → _ := fun n h => h.exists_diagnostics file policy
  refine ⟨hplaced, fun n => Node.placed_of_ofSource?, ?_, ?_⟩
  · intro calls h
    unfold collectCalls at h
    split at h
    next => cases h
    split at h
    next => cases h
    next n hn =>
      obtain ⟨calls', ds, hcalls, hexact, -⟩ := hplaced n (Node.placed_of_ofSource? hn)
      rw [hcalls] at h
      cases h
      exact hexact
  · intro e h
    unfold lint collectCalls at h
    by_cases hnull : text.contains (Char.ofNat 0) = true
    · rw [if_pos hnull] at h
      cases h
      exact .inl ⟨rfl, hnull⟩
    · rw [if_neg hnull] at h
      cases hn : Node.ofSource? text with
      | none =>
        rw [hn] at h
        cases h
        exact .inr ⟨rfl, rfl⟩
      | some n =>
        obtain ⟨calls, ds, hcalls, -, hds⟩ := hplaced n (Node.placed_of_ofSource? hn)
        rw [hn] at h
        simp only [hcalls, hds] at h
        cases h

end TextDomain
