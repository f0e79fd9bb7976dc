import TextDomain.Call
import TextDomain.Sort
import TextDomain.Source.Grammar
import TextDomain.Source.Index

/-!
# The calls of a source

Every call of a source becomes a record of its function, its positional
arguments and their places. Records are sorted by beginning and, for equal
beginnings, the one that ends later first; a call therefore precedes the calls
inside it.

## Main results

* `mem_sortedCalls` — sorting neither drops nor adds a record.
-/

namespace TextDomain

/-- What can be wrong with a source. -/
inductive SourceError where
  /-- It is not well-formed. -/
  | malformed
  /-- It has a NUL in it. -/
  | nullByte
  /-- The tree breaks the contract on positions and order. -/
  | contract (e : ContractError)

namespace Node

/-- The extent of a node as a placement. -/
def placement (n : Node) : SourceIndex.Placement where
  line := n.extent.start.line
  column := n.extent.start.column
  endLine := some n.extent.stop.line
  endColumn := some n.extent.stop.column

/-- The word for the form of a node. -/
def formWord : Node → Text
  | .name .. => "Name".toList
  | .literal .. => "Constant".toList
  | .call .. => "Call".toList
  | .compound .. => "expr".toList

/-- The record of an argument. -/
def argument (index : SourceIndex) (n : Node) : Except ContractError Argument := do
  let (start, stop, location) ← index.span n.formWord n.placement
  let source := (index.text.drop start).take (stop - start)
  match n.literal? with
  | some value => Argument.build true [start, stop] (.text value) source (some location)
  | none => Argument.build false [start, stop] .null source (some location)

/-- The record of a call. -/
def CallSite.record (index : SourceIndex) (c : CallSite) : Except ContractError Call := do
  let n : Node := .call c.extent c.callee c.arguments []
  let (start, stop, location) ← index.span n.formWord n.placement
  let arguments ← c.arguments.mapM (argument index)
  Call.build c.callee.name? arguments [start, stop] (some location)

end Node

/-- Whether a call comes before or at the place of another. -/
def Call.precedes (a b : Call) : Bool :=
  decide (a.span.start < b.span.start ∨
    (a.span.start = b.span.start ∧ b.span.stop ≤ a.span.stop))

/-- Records in source order. -/
def sortedCalls (calls : List Call) : List Call := sortBy Call.precedes calls

theorem mem_sortedCalls {c : Call} {calls : List Call} : c ∈ sortedCalls calls ↔ c ∈ calls :=
  mem_sortBy

/-- The records of all calls of a tree. -/
def Node.records (index : SourceIndex) (n : Node) : Except ContractError (List Call) := do
  let calls ← n.calls.mapM (Node.CallSite.record index)
  return sortedCalls calls

/-- The records of all calls of a source. -/
def collectCalls (text file : Text) : Except SourceError (List Call) :=
  if text.contains (Char.ofNat 0) then .error .nullByte
  else
    match Node.ofSource? text with
    | none => .error .malformed
    | some n =>
      match n.records (.ofText text file) with
      | .ok calls => .ok calls
      | .error e => .error (.contract e)

end TextDomain
