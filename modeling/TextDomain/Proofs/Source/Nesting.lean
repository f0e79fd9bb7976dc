import TextDomain.Proofs.Source.Boundary
import TextDomain.Source.Tree

/-!
# Calls inside of calls

A call leads the calls inside it: it begins before them, or it begins with them and ends
behind them. The second happens when a call is what another one calls, as in `f(x)(y)`,
where both begin with the name. `Node.Nested` says this of every call of a tree.

## Main results

* `Node.calls_eq` — the calls of a tree are the tree itself, if it is one, and those of its
  parts.
* `Node.Below.nested` — what is below a nested node is nested.
-/

namespace TextDomain

/-- The first extent begins before the second, or begins with it and ends behind it. -/
def Extent.Leads (e e' : Extent) : Prop :=
  e.start < e'.start ∨ (e.start = e'.start ∧ e'.stop < e.stop)

namespace Node

/-- The parts of a node. -/
def children : Node → List Node
  | .name .. => []
  | .literal .. => []
  | .call _ callee arguments keywords => callee :: (arguments ++ keywords)
  | .compound _ _ parts => parts

/-- The node as a call, if it is one. -/
def callSite? : Node → Option CallSite
  | .call extent callee arguments _ => some ⟨extent, callee, arguments⟩
  | _ => none

theorem callsOf_append (ns ns' : List Node) : callsOf (ns ++ ns') = callsOf ns ++ callsOf ns' := by
  induction ns with
  | nil => rfl
  | cons n ns ih => rw [List.cons_append, callsOf, callsOf, ih, List.append_assoc]

/-- The calls of a tree are the tree itself, if it is one, and those of its parts. -/
theorem calls_eq (n : Node) : n.calls = n.callSite?.toList ++ callsOf n.children := by
  cases n with
  | name | literal | compound => rfl
  | call extent callee arguments keywords =>
    rw [calls, children, callsOf, callsOf_append, List.append_assoc]
    rfl

theorem mem_callsOf {c : CallSite} {ns : List Node} :
    c ∈ callsOf ns ↔ ∃ n ∈ ns, c ∈ n.calls := by
  induction ns with
  | nil => simp [callsOf]
  | cons n ns ih => simp [callsOf, ih]

theorem mem_calls {c : CallSite} {n : Node} :
    c ∈ n.calls ↔ n.callSite? = some c ∨ ∃ m ∈ n.children, c ∈ m.calls := by
  rw [calls_eq, List.mem_append, mem_callsOf, Option.mem_toList]

/-- Every call of the tree leads the calls inside it. -/
inductive Nested : Node → Prop where
  /-- So does the node itself, if it is a call, and so do those of its parts. -/
  | node {n : Node} (parts : ∀ m ∈ n.children, m.Nested)
      (leads : ∀ c, n.callSite? = some c → ∀ m ∈ n.children, ∀ c' ∈ m.calls,
        c.extent.Leads c'.extent) : n.Nested

/-! ## What is below a node -/

/-- `m.Below n`: at some depth, `m` is a part of `n`. -/
inductive Below : Node → Node → Prop where
  /-- A part of the node. -/
  | part {m n : Node} (h : m ∈ n.children) : Below m n
  /-- A part of a part. -/
  | deeper {k m n : Node} (h : Below k m) (hm : m ∈ n.children) : Below k n

theorem Below.mem_calls {m n : Node} (h : m.Below n) {c : CallSite} (hc : m.callSite? = some c) :
    ∃ k ∈ n.children, c ∈ k.calls := by
  induction h with
  | part hm => exact ⟨m, hm, Node.mem_calls.2 (.inl hc)⟩
  | @deeper part n _ hpart ih => exact ⟨part, hpart, Node.mem_calls.2 (.inr ih)⟩

theorem Below.trans {k m n : Node} (h : k.Below m) (h' : m.Below n) : k.Below n := by
  induction h' with
  | part hm => exact .deeper h hm
  | deeper _ hm ih => exact .deeper ih hm

theorem Below.nested {m n : Node} (h : m.Below n) (hn : n.Nested) : m.Nested := by
  induction h with
  | part hm =>
    cases hn with
    | node parts => exact parts _ hm
  | deeper _ hm ih =>
    cases hn with
    | node parts => exact ih (parts _ hm)

end Node

end TextDomain
