import TextDomain.Proofs.Counting.Statement
import TextDomain.Proofs.Rewriting.Calls

/-!
# Literals come once

No position lies in two tokens of a source, so no two string literals of its tree begin at one
position. In the records of the calls, therefore, one literal is an argument of one call only,
and in one slot of it.

## Main results

* `literalsAt_le_one` — one literal of a tree at most begins at a position.
* `literalsOnce_of_collectCalls` — a literal is an argument once.
-/

namespace TextDomain

open Token (Lexed credit)

theorem getElem?_of_forall₂ {α β : Type} {R : α → β → Prop} {l : List α} {l' : List β}
    (h : List.Forall₂ R l l') {i : Nat} {y : β} (hy : l'[i]? = some y) :
    ∃ x, l[i]? = some x ∧ R x y := by
  induction h generalizing i with
  | nil => cases hy
  | cons hr _ ih =>
    cases i with
    | zero => exact ⟨_, rfl, Option.some.inj hy ▸ hr⟩
    | succ i => exact ih hy

/-! ## Trees -/

namespace Node

/-- One, if the node is a string literal that begins at the position. -/
def beginsAt (q : Position) : Node → Nat
  | .name .. => 0
  | .literal e _ => if e.start = q then 1 else 0
  | .call .. => 0
  | .compound .. => 0

/-- How many arguments of a call are string literals that begin at a position. -/
def CallSite.literalsAt (q : Position) (c : CallSite) : Nat := tally (beginsAt q) c.arguments

theorem beginsAt_of_literal {n : Node} (h : n.literal?.isSome = true) :
    beginsAt n.extent.start n ≠ 0 := by
  cases n with
  | literal e value => exact fun hzero => absurd hzero (by rw [beginsAt, extent, if_pos rfl]; decide)
  | name | call | compound => cases h

mutual

/-- The literals that are arguments, and the node itself, are among the literals of a tree. -/
theorem tally_calls_le (q : Position) : (n : Node) →
    tally (CallSite.literalsAt q) n.calls + beginsAt q n ≤ literalsAt q n
  | .name .. => Nat.le_refl 0
  | .literal e _ => by rw [calls, tally_nil, Nat.zero_add, beginsAt, literalsAt]
  | .call _ callee arguments keywords => by
    have hcallee := tally_calls_le q callee
    have harguments := tally_callsOf_le q arguments
    have hkeywords := tally_callsOf_le q keywords
    simp only [calls, tally_cons, tally_append, beginsAt, literalsAt, CallSite.literalsAt]
    omega
  | .compound _ _ parts => by
    have hparts := tally_callsOf_le q parts
    rw [calls, beginsAt, literalsAt]
    omega

theorem tally_callsOf_le (q : Position) : (ns : List Node) →
    tally (CallSite.literalsAt q) (callsOf ns) + tally (beginsAt q) ns ≤ literalsAtOf q ns
  | [] => Nat.le_refl 0
  | n :: rest => by
    have hfirst := tally_calls_le q n
    have hrest := tally_callsOf_le q rest
    rw [callsOf, tally_append, tally_cons, literalsAtOf_cons]
    omega

end

end Node

/-! ## Sources -/

variable {text file : Text}

/-- One string literal at most begins at a position of a source. -/
theorem literalsAt_le_one {n : Node} (h : Node.ofSource? text = some n) (q : Position) :
    n.literalsAt q ≤ 1 := by
  obtain ⟨tokens, hlexed, hn⟩ := Option.bind_eq_some_iff.1 h
  obtain ⟨⟨m, s⟩, hfile, heq⟩ := Option.bind_eq_some_iff.1 hn
  obtain rfl : m = n := Option.some.inj heq
  have hone := (Lexed.ofLex hlexed).runs.credit_le_one (q := q)
  obtain ⟨-, hpaid⟩ :=
    Parser.file_pays (Lexed.ofLex hlexed) q _ (TokenStream.of_tokens (Lexed.ofLex hlexed)) hfile
  have hpaid : m.literalsAt q + credit q s.rest ≤ 0 + credit q (Lexed.ofLex hlexed).tokens := hpaid
  omega

/-- A string literal is an argument of calls of one name, in one slot. -/
def LiteralsOnce (calls : List Call) : Prop :=
  ∀ c ∈ calls, ∀ c' ∈ calls, ∀ (i j : Nat) (a b : Argument), c.arguments[i]? = some a →
    c'.arguments[j]? = some b → a.isLiteral = true → b.isLiteral = true → a.span = b.span →
      c.functionName = c'.functionName ∧ i = j

/-- A string literal of a source is an argument once. -/
theorem literalsOnce_of_collectCalls {calls : List Call}
    (h : collectCalls text file = .ok calls) : LiteralsOnce calls := by
  obtain ⟨-, n, hn, hrecords⟩ := collectCalls_eq_ok_iff.1 h
  obtain ⟨found, hfound, rfl⟩ := Node.records_eq_ok_iff.1 hrecords
  have hrecorded : ∀ {c}, c ∈ sortedCalls found → ∃ site ∈ n.calls, site.RecordedAs text c := by
    intro c hc
    obtain ⟨site, hsite, hrecord⟩ := Node.exists_mem_of_forall₂ hfound (mem_sortedCalls.1 hc)
    exact ⟨site, hsite, (Node.placed_of_ofSource? hn site hsite).recordedAs hrecord⟩
  intro c hc c' hc' i j a b ha hb hliteral hliteral' hspan
  obtain ⟨site, hsite, hrecord⟩ := hrecorded hc
  obtain ⟨site', hsite', hrecord'⟩ := hrecorded hc'
  obtain ⟨m, hm, harg, -⟩ := getElem?_of_forall₂ hrecord.arguments ha
  obtain ⟨m', hm', harg', -⟩ := getElem?_of_forall₂ hrecord'.arguments hb
  -- Both begin at one position, and so are counted there.
  have hstart : m'.extent.start = m.extent.start :=
    (harg'.spans.start.eq_iff harg.spans.start).2 (by rw [hspan])
  have hcost := Node.beginsAt_of_literal (harg.isLiteral ▸ hliteral)
  have hcost' := hstart ▸ Node.beginsAt_of_literal (harg'.isLiteral ▸ hliteral')
  have htree := (Node.tally_calls_le m.extent.start n).trans (literalsAt_le_one hn _)
  have hle := le_tally (m := Node.beginsAt m.extent.start) (List.mem_of_getElem? hm)
  have hle' := le_tally (m := Node.beginsAt m.extent.start) (List.mem_of_getElem? hm')
  obtain ⟨k, hk⟩ := List.mem_iff_getElem?.1 hsite
  obtain ⟨k', hk'⟩ := List.mem_iff_getElem?.1 hsite'
  obtain rfl : k = k' := index_unique (m := Node.CallSite.literalsAt m.extent.start) (by omega)
    hk hk' (by unfold Node.CallSite.literalsAt; omega) (by unfold Node.CallSite.literalsAt; omega)
  obtain rfl : site = site' := Option.some.inj (hk.symm.trans hk')
  have hsites := le_tally (m := Node.CallSite.literalsAt m.extent.start) hsite
  refine ⟨hrecord.name.trans hrecord'.name.symm, ?_⟩
  refine index_unique (m := Node.beginsAt m.extent.start) ?_ hm hm' hcost hcost'
  unfold Node.CallSite.literalsAt at hsites htree
  omega

end TextDomain
