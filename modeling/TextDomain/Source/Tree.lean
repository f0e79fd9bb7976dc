import TextDomain.Source.Position

/-!
# Syntax trees

The linter looks at names, string literals and calls; of everything else it
needs the parts and, while a source is being read, whether it may stand on the
left of an assignment. `Node` keeps exactly that.

## Main results

* `mem_calls_self` — a call is among the calls of its own tree.
-/

namespace TextDomain

/-- Of a piece of syntax that is no name, string literal or call: what it is,
as far as assignments need to know. -/
inductive Form where
  /-- A named member of an expression. -/
  | member
  /-- An element or slice of an expression. -/
  | subscript
  /-- A starred expression. -/
  | starred
  /-- A tuple. -/
  | tuple
  /-- A list. -/
  | list
  /-- Anything else. -/
  | other
deriving DecidableEq

/-- A syntax tree. -/
inductive Node where
  /-- A name, in compatibility normal form. -/
  | name (extent : Extent) (id : Text)
  /-- A string literal, possibly of several pieces, with its value. -/
  | literal (extent : Extent) (value : Text)
  /-- A call: the callee, the positional arguments in order, and the values of
  the keyword arguments. -/
  | call (extent : Extent) (callee : Node) (arguments keywords : List Node)
  /-- Anything else, with its parts. -/
  | compound (extent : Extent) (form : Form) (parts : List Node)

namespace Node

/-- Where the node stands. -/
def extent : Node → Extent
  | .name e _ => e
  | .literal e _ => e
  | .call e _ _ _ => e
  | .compound e _ _ => e

/-- The name, if the node is one. -/
def name? : Node → Option Text
  | .name _ id => some id
  | _ => none

/-- The value, if the node is a string literal. -/
def literal? : Node → Option Text
  | .literal _ value => some value
  | _ => none

/-- The form of the node; names, literals and calls count as other. -/
def form : Node → Form
  | .compound _ form _ => form
  | _ => .other

/-! ## Calls -/

/-- A call found in a tree. -/
structure CallSite where
  /-- Where the call stands. -/
  extent : Extent
  /-- What is called. -/
  callee : Node
  /-- The positional arguments. -/
  arguments : List Node

mutual

/-- All calls of a tree, a call before the calls in its parts. -/
def calls : Node → List CallSite
  | .name .. => []
  | .literal .. => []
  | .call extent callee arguments keywords =>
    ⟨extent, callee, arguments⟩ :: (calls callee ++ callsOf arguments ++ callsOf keywords)
  | .compound _ _ parts => callsOf parts

/-- All calls of several trees. -/
def callsOf : List Node → List CallSite
  | [] => []
  | n :: rest => calls n ++ callsOf rest

end

theorem mem_calls_self (extent : Extent) (callee : Node) (arguments keywords : List Node) :
    ⟨extent, callee, arguments⟩ ∈ calls (.call extent callee arguments keywords) := by
  simp [calls]

/-! ## Targets -/

mutual

/-- Whether the node may stand among the targets of an assignment. A starred
node may, as long as nothing starred stands inside it. -/
def isTarget : Node → Bool
  | .name .. => true
  | .literal .. => false
  | .call .. => false
  | .compound _ .member _ => true
  | .compound _ .subscript _ => true
  | .compound _ .starred [n] => n.form != .starred && isTarget n
  | .compound _ .tuple parts => areTargets parts
  | .compound _ .list parts => areTargets parts
  | .compound .. => false

/-- Whether all nodes may stand among the targets of an assignment. -/
def areTargets : List Node → Bool
  | [] => true
  | n :: rest => isTarget n && areTargets rest

end

/-- Whether the node may stand alone before an annotation or an augmented
assignment. -/
def isSingleTarget : Node → Bool
  | .name .. => true
  | .compound _ form _ => form == .member || form == .subscript
  | _ => false

mutual

/-- Whether the node may be deleted: as a target, but without stars. -/
def isDeletable : Node → Bool
  | .name .. => true
  | .literal .. => false
  | .call .. => false
  | .compound _ .member _ => true
  | .compound _ .subscript _ => true
  | .compound _ .tuple parts => areDeletable parts
  | .compound _ .list parts => areDeletable parts
  | .compound .. => false

/-- Whether all nodes may be deleted. -/
def areDeletable : List Node → Bool
  | [] => true
  | n :: rest => isDeletable n && areDeletable rest

end

end Node

end TextDomain
