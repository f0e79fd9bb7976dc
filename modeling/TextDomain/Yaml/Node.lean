import TextDomain.Yaml.Schema

/-!
# Nodes

A node is a scalar, a sequence or a mapping, with a tag. It is built from its
parts and carries its value, so an alias that repeats a node costs nothing.

Where a document has several faults, the one nearest to the root counts, and
of those equally near the first. A scalar has its faults itself; a collection
has those of its own form one level below, where its parts begin. That order
is kept by giving every fault its distance from the node.

A mapping may take in others under the merge key. Their entries come first, so
that its own take their place; of several mappings in a sequence, the earlier
ones win.
-/

namespace TextDomain.Yaml

/-- A fault at a distance below a node. -/
structure DeepFault where
  /-- The distance. -/
  depth : Nat
  /-- The fault. -/
  fault : Fault

/-- What a node is made of. -/
inductive Content (α : Type) where
  /-- A text. -/
  | scalar (t : Text)
  /-- Nodes in their order. -/
  | sequence (items : List α)
  /-- Pairs of nodes; and the entries in force after merging, if merging is
  possible. -/
  | mapping (entries : List (α × α)) (merged : Option (List (α × α)))
  /-- An alias of a collection that is not complete yet. -/
  | enclosing

/-- A node. -/
inductive Node where
  /-- A tag, parts, the text of the node if it has one, and its value. -/
  | mk (tag : Tag) (content : Content Node) (scalarText : Option Text)
    (value : Except DeepFault Value)

namespace Node

/-- The tag of a node. -/
def tag : Node → Tag
  | .mk t .. => t

/-- What a node is made of. -/
def content : Node → Content Node
  | .mk _ c .. => c

/-- The text of a scalar, or of the scalar that a mapping holds. -/
def text? : Node → Option Text
  | .mk _ _ t _ => t

/-- The value of a node. -/
def value : Node → Except DeepFault Value
  | .mk _ _ _ v => v

/-! ## Faults -/

/-- The fault of a part, seen from the node around it. -/
def partFault? (n : Node) : Option DeepFault :=
  match n.value with
  | .ok _ => none
  | .error e => some { e with depth := e.depth + 1 }

/-- The fault of a key, seen from the mapping around it. A collection is no
key, whatever else is wrong with it. -/
def keyFault? (n : Node) : Option DeepFault :=
  match n.value with
  | .ok v => if v.isKey then none else some ⟨1, .malformed⟩
  | .error ⟨0, fault⟩ => some ⟨1, fault⟩
  | .error _ => some ⟨1, .malformed⟩

/-- The nearest fault, of equally near ones the first. -/
def nearest? : List (Option DeepFault) → Option DeepFault
  | [] => none
  | none :: rest => nearest? rest
  | some e :: rest =>
    match nearest? rest with
    | some e' => if e'.depth < e.depth then some e' else some e
    | none => some e

/-- The value, unless there are faults. -/
def unlessFault (faults : List (Option DeepFault)) (v : Value) : Except DeepFault Value :=
  match nearest? faults with
  | some e => .error e
  | none => .ok v

/-- The value of a part that has no fault. -/
def soundValue (n : Node) : Value :=
  match n.value with
  | .ok v => v
  | .error _ => .null

/-! ## Values -/

/-- The faults of the keys and values of entries, in their order. -/
def entryFaults (entries : List (Node × Node)) : List (Option DeepFault) :=
  entries.flatMap fun (k, v) => [k.keyFault?, v.partFault?]

/-- The entries of a mapping by their values; the last of equal keys wins. -/
def entryValues (entries : List (Node × Node)) : List (Value × Value) :=
  entries.foldl (fun acc (k, v) => Value.put k.soundValue v.soundValue acc) []

/-- The only entry of a node that is a mapping with one entry. -/
def onlyEntry? (n : Node) : Option (Node × Node) :=
  match n.content with
  | .mapping [e] _ => some e
  | _ => none

/-- The faults of one entry of a sequence of pairs. -/
def pairFaults (n : Node) : List (Option DeepFault) :=
  match n.onlyEntry? with
  | some (k, v) => [k.partFault?, v.partFault?]
  | none => [some ⟨1, .malformed⟩]

/-- The pair of one entry of a sequence of pairs. -/
def pairValue (n : Node) : Value :=
  match n.onlyEntry? with
  | some (k, v) => .pair k.soundValue v.soundValue
  | none => .null

/-- The value of a node with a tag and parts. -/
def valueOf (tag : Tag) (content : Content Node) (text? : Option Text) :
    Except DeepFault Value :=
  let misplaced : Except DeepFault Value := .error ⟨1, .malformed⟩
  if tag = Tag.sequence then
    match content with
    | .sequence items => unlessFault (items.map partFault?) (.sequence (items.map soundValue))
    | _ => misplaced
  else if tag = Tag.mapping then
    match content with
    | .mapping _ (some entries) =>
      unlessFault (entryFaults entries) (.mapping (entryValues entries))
    | _ => misplaced
  else if tag = Tag.set then
    match content with
    | .mapping _ (some entries) =>
      unlessFault (entryFaults entries) (.set ((entryValues entries).map (·.1)))
    | _ => misplaced
  else if tag.isPairs then
    match content with
    | .sequence items =>
      unlessFault (items.flatMap pairFaults) (.sequence (items.map pairValue))
    | _ => misplaced
  else
    match text? with
    | none => .error ⟨0, .malformed⟩
    | some t =>
      match scalarValue tag t with
      | .ok v => .ok v
      | .error e => .error ⟨0, e⟩

/-! ## Building -/

/-- The text that the parts of a node give it. -/
def textOf : Content Node → Option Text
  | .scalar t => some t
  | .mapping entries _ =>
    match entries.find? (·.1.tag == Tag.value) with
    | some (_, v) => v.text?
    | none => none
  | _ => none

/-- The node with a tag and parts. -/
def ofContent (tag : Tag) (content : Content Node) : Node :=
  .mk tag content (textOf content) (valueOf tag content (textOf content))

/-- A scalar. -/
def scalar (tag : Tag) (t : Text) : Node := ofContent tag (.scalar t)

/-- A sequence. -/
def sequence (tag : Tag) (items : List Node) : Node := ofContent tag (.sequence items)

/-- An alias of a collection that is not complete yet. -/
def enclosing : Node := .mk [] .enclosing none (.ok .enclosing)

/-- The entries that a mapping takes in from a node, if it is a mapping. -/
def mergedEntries? (n : Node) : Option (List (Node × Node)) :=
  match n.content with
  | .mapping _ merged => merged
  | .enclosing => some []
  | _ => none

/-- The entries that a mapping takes in from the value of a merge key. -/
def takenIn? (n : Node) : Option (List (Node × Node)) :=
  match n.content with
  | .sequence items => (items.mapM mergedEntries?).map fun parts => parts.reverse.flatten
  | _ => n.mergedEntries?

/-- A key as it counts in a mapping: the special key for the own scalar is an
ordinary text there. -/
def plainKey (n : Node) : Node :=
  if n.tag = Tag.value then ofContent Tag.text n.content else n

/-- The entries in force: those taken in, then the own ones. -/
def merge? (entries : List (Node × Node)) : Option (List (Node × Node)) := do
  let taken ← (entries.filter (·.1.tag == Tag.merge)).mapM fun (_, v) => v.takenIn?
  let own := (entries.filter (·.1.tag != Tag.merge)).map fun (k, v) => (k.plainKey, v)
  some (taken.flatten ++ own)

/-- A mapping. -/
def mapping (tag : Tag) (entries : List (Node × Node)) : Node :=
  ofContent tag (.mapping entries (merge? entries))

end Node

end TextDomain.Yaml
