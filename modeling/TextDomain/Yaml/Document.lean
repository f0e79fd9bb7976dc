import TextDomain.Yaml.Node
import TextDomain.Yaml.Token

/-!
# Documents

A text holds one document at most; without one its value is nothing. The
nodes of a document are read off its tokens. A node may be named by an anchor
and repeated by aliases; a name is given once, before it is used.

The depth of the reading is bounded by the number of tokens: every second
level takes one.
-/

namespace TextDomain.Yaml

/-! ## The state -/

/-- The tokens that are left, and the names that are given. -/
structure Composing where
  /-- The tokens. -/
  tokens : List Token
  /-- The fault behind the last token. -/
  fault : Option Fault
  /-- The named nodes; a node that is not complete yet has none. -/
  anchors : List (Text × Option Node) := []
  /-- What handles stand for. -/
  handles : TagHandles := defaultHandles

/-- A step of composing nodes. -/
abbrev Composer := StateT Composing (Except Fault)

namespace Composer

/-- The next token. -/
def peek : Composer Token := do
  let s ← get
  match s.tokens with
  | t :: _ => return t
  | [] => throw (s.fault.getD .malformed)

/-- Moves on by one token. -/
def skip : Composer Unit := modify fun s => { s with tokens := s.tokens.drop 1 }

/-- Takes the next token if it is the given one. -/
def takes (t : Token) : Composer Bool := do
  if (← peek) = t then
    skip
    return true
  else return false

/-- Takes the given token, which has to follow. -/
def expect (t : Token) : Composer Unit := do
  if !(← takes t) then throw .malformed

/-- Whether one of the given tokens follows. -/
def isAt (ts : List Token) : Composer Bool := do return ts.contains (← peek)

/-! ## Properties of nodes -/

/-- What stands before a node. -/
structure Properties where
  /-- Its name. -/
  anchor : Option Text := none
  /-- Its tag. -/
  tag : Option Tag := none

/-- The name, if one follows. -/
def anchor? : Composer (Option Text) := do
  match ← peek with
  | .anchor name => skip; return some name
  | _ => return none

/-- The tag, if one follows. -/
def tag? : Composer (Option WrittenTag) := do
  match ← peek with
  | .tag t => skip; return some t
  | _ => return none

/-- The name and the tag of a node, in either order. -/
def properties : Composer Properties := do
  let (anchor, tag) ← do
    match ← anchor? with
    | some name => pure (some name, ← tag?)
    | none =>
      match ← tag? with
      | some t => pure (← anchor?, some t)
      | none => pure (none, none)
  match tag with
  | none => return { anchor := anchor }
  | some t =>
    match t.resolve? (← get).handles with
    | some tag => return { anchor := anchor, tag := some tag }
    | none => throw .malformed

/-- Whether no type is given: there is no tag, or one that says nothing. -/
def Properties.isUntyped (p : Properties) : Bool := p.tag.isNone || p.tag == some ['!']

/-- The tag of a collection. -/
def Properties.tagOr (p : Properties) (default : Tag) : Tag :=
  if p.isUntyped then default else p.tag.getD default

/-- The tag of a scalar: its form decides where it is plain or has the tag
that says nothing. -/
def Properties.scalarTag (p : Properties) (isPlain : Bool) (t : Text) : Tag :=
  match p.tag with
  | none => if isPlain then implicitTag t else Tag.text
  | some tag => if tag = ['!'] then implicitTag t else tag

/-- Composes a node and gives it its name. The name is known already inside
the node. -/
def named (p : Properties) (compose : Composer Node) : Composer Node := do
  match p.anchor with
  | none => compose
  | some name =>
    if ((← get).anchors.lookup name).isSome then throw .malformed
    modify fun s => { s with anchors := (name, none) :: s.anchors }
    let n ← compose
    modify fun s => { s with anchors := (name, some n) :: s.anchors }
    return n

/-- The node that an alias repeats. -/
def aliased (name : Text) : Composer Node := do
  match (← get).anchors.lookup name with
  | some (some n) => return n
  | some none => return .enclosing
  | none => throw .malformed

/-- A scalar without a text. -/
def empty : Node := .scalar (standard "null") []

/-! ## Nodes -/

mutual

/-- A node. Block collections are allowed or not, and so is a sequence at the
column of the mapping around it. -/
def node (allowsBlock allowsIndentless : Bool) : Nat → Composer Node
  | 0 => throw .malformed
  | fuel + 1 => do
    if let .alias name ← peek then
      skip
      return ← aliased name
    let p ← properties
    named p do
      match ← peek with
      | .blockEntry =>
        if allowsIndentless then
          return .sequence (p.tagOr Tag.sequence) (← indentlessItems fuel)
        else without p
      | .scalar isPlain t =>
        skip
        return .scalar (p.scalarTag isPlain t) t
      | .flowSequenceStart =>
        skip
        return .sequence (p.tagOr Tag.sequence) (← flowItems true fuel)
      | .flowMappingStart =>
        skip
        return .mapping (p.tagOr Tag.mapping) (← flowEntries true fuel)
      | .blockSequenceStart =>
        if allowsBlock then
          skip
          return .sequence (p.tagOr Tag.sequence) (← blockItems fuel)
        else without p
      | .blockMappingStart =>
        if allowsBlock then
          skip
          return .mapping (p.tagOr Tag.mapping) (← blockEntries fuel)
        else without p
      | _ => without p

/-- The node behind properties alone. -/
def without (p : Properties) : Composer Node :=
  if p.anchor.isSome || p.tag.isSome then return .scalar (p.scalarTag true []) []
  else throw .malformed

/-- A node, or an empty one where a token shows that there is none. -/
def nodeUnless (ends : List Token) (allowsBlock allowsIndentless : Bool) : Nat → Composer Node
  | 0 => throw .malformed
  | fuel + 1 => do
    if ← isAt ends then return empty
    node allowsBlock allowsIndentless fuel

/-- The items of a sequence shown by indentation. -/
def blockItems : Nat → Composer (List Node)
  | 0 => throw .malformed
  | fuel + 1 => do
    if ← takes .blockEntry then
      let n ← nodeUnless [.blockEntry, .blockEnd] true false fuel
      return n :: (← blockItems fuel)
    expect .blockEnd
    return []

/-- The items of a sequence at the column of the mapping around it. -/
def indentlessItems : Nat → Composer (List Node)
  | 0 => throw .malformed
  | fuel + 1 => do
    if ← takes .blockEntry then
      let n ← nodeUnless [.blockEntry, .key, .value, .blockEnd] true false fuel
      return n :: (← indentlessItems fuel)
    return []

/-- The entries of a mapping shown by indentation. -/
def blockEntries : Nat → Composer (List (Node × Node))
  | 0 => throw .malformed
  | fuel + 1 => do
    if ← takes .key then
      let ends := [.key, .value, .blockEnd]
      let k ← nodeUnless ends true true fuel
      let v ← if ← takes .value then nodeUnless ends true true fuel else pure empty
      return (k, v) :: (← blockEntries fuel)
    expect .blockEnd
    return []

/-- The items of a sequence in brackets. An item with a colon is a mapping of
one entry. -/
def flowItems (isFirst : Bool) : Nat → Composer (List Node)
  | 0 => throw .malformed
  | fuel + 1 => do
    if ← takes .flowSequenceEnd then return []
    if !isFirst then
      expect .flowEntry
      if ← takes .flowSequenceEnd then return []
    let n ← do
      if ← takes .key then
        let k ← nodeUnless [.value, .flowEntry, .flowSequenceEnd] false false fuel
        let v ← if ← takes .value then
            nodeUnless [.flowEntry, .flowSequenceEnd] false false fuel
          else pure empty
        pure (.mapping Tag.mapping [(k, v)])
      else node false false fuel
    return n :: (← flowItems false fuel)

/-- The entries of a mapping in braces. An item without a colon is a key. -/
def flowEntries (isFirst : Bool) : Nat → Composer (List (Node × Node))
  | 0 => throw .malformed
  | fuel + 1 => do
    if ← takes .flowMappingEnd then return []
    if !isFirst then
      expect .flowEntry
      if ← takes .flowMappingEnd then return []
    let e ← do
      if ← takes .key then
        let k ← nodeUnless [.value, .flowEntry, .flowMappingEnd] false false fuel
        let v ← if ← takes .value then
            nodeUnless [.flowEntry, .flowMappingEnd] false false fuel
          else pure empty
        pure (k, v)
      else pure (← node false false fuel, empty)
    return e :: (← flowEntries false fuel)

end

/-! ## Documents -/

/-- The directives before a document, at most the given number. -/
def directives : Nat → Composer (List Directive)
  | 0 => return []
  | n + 1 => do
    match ← peek with
    | .directive d => skip; return d :: (← directives n)
    | _ => return []

/-- Skips the marks that end a document, at most the given number. -/
def skipEnds : Nat → Composer Unit
  | 0 => return
  | n + 1 => do if ← takes .documentEnd then skipEnds n

/-- The document that begins with its mark, its directives before it. -/
def markedDocument (fuel : Nat) : Composer Node := do
  match handlesOf? (← directives fuel) with
  | none => throw .malformed
  | some handles =>
    modify fun s => { s with handles := handles }
    expect .documentStart
    match ← peek with
    | .directive _ | .documentStart | .documentEnd | .finish => return empty
    | _ => node true false fuel

/-- The only document, if there is one. -/
def document? (fuel : Nat) : Composer (Option Node) := do
  let n ← do
    match ← peek with
    | .finish => return none
    | .directive _ | .documentStart => markedDocument fuel
    | _ => node true false fuel
  skipEnds fuel
  expect .finish
  return some n

end Composer

/-- The root of the document that tokens make up, if there is one. -/
def Node.ofTokens? (s : Token.Stream) : Except Fault (Option Node) :=
  (Composer.document? (4 * s.tokens.length + 8)).run' { tokens := s.tokens, fault := s.fault }

/-- Whether a document may hold a character. -/
def isAllowed (c : Char) : Bool :=
  let n := c.toNat
  n == 0x09 || n == 0x0A || n == 0x0D || decide (0x20 ≤ n ∧ n ≤ 0x7E) || n == 0x85 ||
    decide (0xA0 ≤ n ∧ n ≤ 0xD7FF) || decide (0xE000 ≤ n ∧ n ≤ 0xFFFD) || decide (0x10000 ≤ n)

/-- The value of the document in a text. -/
def read (t : Text) : Except Fault Value :=
  if t.all isAllowed then
    match Node.ofTokens? (Token.scan t) with
    | .error e => .error e
    | .ok none => .ok .null
    | .ok (some n) =>
      match n.value with
      | .ok v => .ok v
      | .error e => .error e.fault
  else .error .malformed

end TextDomain.Yaml
