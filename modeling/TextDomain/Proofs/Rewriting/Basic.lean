import TextDomain.Proofs.Source.Nesting
import TextDomain.Source.Grammar

/-!
# A literal written anew

If a string literal of a source is written in another way, all that stands behind it
moves. A `Rewriting` says where the literal began and ended, where it ends now, and what
its value is now; it maps the positions up to its beginning to themselves, and those from
its end on to where they have come.

Tokens correspond if they are written alike and stand at corresponding positions. String
tokens correspond in runs, since a literal may have several pieces, and one run may be that
of the literal that was written anew. Nodes correspond if all that the linter and the
grammar see of them does: where they stand, what they are, and the calls in them.

## Main results

* `Rewriting.shift_after` — what is moved is moved as a whole.
* `nodeMaps_compound`, `nodeMaps_call` — nodes of corresponding parts correspond.
-/

namespace TextDomain

/-- A string literal that is written anew. -/
structure Rewriting where
  /-- Where the literal begins. -/
  start : Position
  /-- Where it ended. -/
  oldStop : Position
  /-- Where it ends now. -/
  newStop : Position
  /-- Its value now. -/
  value : Text
  /-- Where literals may stand. -/
  spots : Extent → Prop

namespace Rewriting

variable (w : Rewriting)

/-! ## Positions -/

/-- Where a position behind the literal has come. -/
def shift (p : Position) : Position :=
  if p.line = w.oldStop.line then
    ⟨w.newStop.line, p.column - w.oldStop.column + w.newStop.column⟩
  else ⟨p.line - w.oldStop.line + w.newStop.line, p.column⟩

/-- `p` stands in the old text where `p'` stands in the new one. -/
def Maps (p p' : Position) : Prop := p ≤ w.start ∧ p' = p ∨ w.oldStop ≤ p ∧ p' = w.shift p

variable {w}

theorem shift_next {p : Position} (h : w.oldStop ≤ p) (c : Char) :
    w.shift (p.next c) = (w.shift p).next c := by
  rcases Position.le_iff.1 h with hline | ⟨hline, hcolumn⟩
  · have hnot : p.line ≠ w.oldStop.line := by omega
    by_cases hc : c = '\n'
    · have hnot' : p.line + 1 ≠ w.oldStop.line := by omega
      simp only [Position.next, hc, if_true, shift, hnot, hnot', if_false, Position.mk.injEq,
        and_true]
      omega
    · simp [Position.next, hc, shift, hnot]
  · by_cases hc : c = '\n'
    · simp only [Position.next, hc, if_true, shift, hline, Nat.succ_ne_self, if_false,
        Position.mk.injEq, and_true]
      omega
    · simp only [Position.next, hc, if_false, shift, hline, if_true, Position.mk.injEq, true_and]
      omega

/-- What stands behind the literal is moved as a whole. -/
theorem shift_after {p : Position} (h : w.oldStop ≤ p) (t : Text) :
    w.shift (p.after t) = (w.shift p).after t := by
  induction t generalizing p with
  | nil => rfl
  | cons c t ih =>
    show w.shift ((p.next c).after t) = ((w.shift p).next c).after t
    rw [ih (h.trans (Position.lt_next p c).le), shift_next h]

theorem shift_oldStop : w.shift w.oldStop = w.newStop := by
  simp [shift]

/-! ## Tokens -/

variable (w) in
/-- The tokens are written alike, and stand at corresponding positions. -/
structure TokenMaps (t t' : Token) : Prop where
  kind : t.kind = t'.kind
  text : t.text = t'.text
  start : w.Maps t.extent.start t'.extent.start
  stop : w.Maps t.extent.stop t'.extent.stop

variable (w) in
/-- Where a token has come that stands behind the literal. -/
def moved (t : Token) : Token :=
  { t with extent := ⟨w.shift t.extent.start, w.shift t.extent.stop⟩ }

/-- A token of a string without bytes and replacement fields. -/
def IsPlainToken (t : Token) : Prop :=
  t.kind = .string ∧ ∃ p r v, Literal.splitPiece? t.text = some (p, r) ∧ p.isBytes = false ∧
    p.isFormatted = false ∧ p.value? = some v

variable (w) in
/-- Tokens side by side that are all string tokens, and what has become of them: they stand
in front of the literal, or behind it, or they are the literal. -/
inductive RunMaps : List Token → List Token → Prop where
  /-- In front of the literal nothing changes. -/
  | kept {r : List Token}
      (before : ∀ t ∈ r, t.extent.start < w.start ∧ t.extent.stop ≤ w.start ∧
        t.extent.stop = t.extent.start.after t.text) : RunMaps r r
  /-- Behind the literal they are moved. -/
  | moved {r : List Token} (behind : ∀ t ∈ r, w.oldStop ≤ t.extent.start ∧
        t.extent.stop = t.extent.start.after t.text) : RunMaps r (r.map w.moved)
  /-- The literal is written anew, as a single piece. -/
  | rewritten {r : List Token} {t : Token} {p : Literal.Piece} {rest : Text}
      (start : r.head?.map (·.extent.start) = some w.start)
      (stop : r.getLast?.map (·.extent.stop) = some w.oldStop)
      (plain : ∀ t ∈ r, IsPlainToken t)
      (kind : t.kind = .string) (extent : t.extent = ⟨w.start, w.newStop⟩)
      (piece : Literal.splitPiece? t.text = some (p, rest)) (isBytes : p.isBytes = false)
      (isFormatted : p.isFormatted = false) (value : p.value? = some w.value) : RunMaps r [t]

/-- A string token with replacement fields. -/
def IsFormattedToken (t : Token) : Prop :=
  t.kind = .string ∧ ∃ p r, Literal.splitPiece? t.text = some (p, r) ∧ p.isFormatted = true

/-- Whether a string token comes next. -/
def StringNext (ts : List Token) : Prop := ∃ t ∈ ts.head?, t.kind = .string

variable (w) in
/-- The literal of a run of string tokens, if it is plain, and those in its replacement
fields stand where literals may. -/
structure RunSpots (r : List Token) : Prop where
  whole : (∀ t ∈ r, IsPlainToken t) → ∀ first ∈ r.head?, ∀ last ∈ r.getLast?,
    w.spots ⟨first.extent.start, last.extent.stop⟩
  fields : ∀ t ∈ r, IsFormattedToken t → ∀ e : Extent, t.extent.start < e.start →
    e.stop ≤ t.extent.stop → w.spots e

variable (w) in
/-- The tokens of the old text and those of the new one. -/
inductive TokensMap : List Token → List Token → Prop where
  /-- There are no tokens left. -/
  | nil : TokensMap [] []
  /-- A token other than a string. -/
  | other {t t' : Token} {ts ts' : List Token} (kind : t.kind ≠ .string)
      (token : w.TokenMaps t t') (rest : TokensMap ts ts') : TokensMap (t :: ts) (t' :: ts')
  /-- All string tokens up to another token. -/
  | run {r r' ts ts' : List Token} (strings : ∀ t ∈ r, t.kind = .string)
      (strings' : ∀ t ∈ r', t.kind = .string) (ne_nil : r ≠ []) (ne_nil' : r' ≠ [])
      (ends : ¬ StringNext ts) (ends' : ¬ StringNext ts') (maps : w.RunMaps r r')
      (spots : w.RunSpots r) (rest : TokensMap ts ts') : TokensMap (r ++ ts) (r' ++ ts')

/-! ## Nodes -/

variable (w) in
/-- The value of a literal in the new text. -/
def literalNow (e : Extent) (value? : Option Text) : Option Text :=
  value?.map fun v => if e.start = w.start ∧ e.stop = w.oldStop then w.value else v

variable (w) in
/-- Both ends of the extents correspond. -/
structure ExtentMaps (e e' : Extent) : Prop where
  start : w.Maps e.start e'.start
  stop : w.Maps e.stop e'.stop

variable (w) in
/-- An argument and what has become of it. -/
structure ArgumentMaps (n n' : Node) : Prop where
  extent : w.ExtentMaps n.extent n'.extent
  literal : n'.literal? = w.literalNow n.extent n.literal?
  spot : n.literal?.isSome = true → w.spots n.extent

variable (w) in
/-- A call and what has become of it. -/
structure SiteMaps (c c' : Node.CallSite) : Prop where
  extent : w.ExtentMaps c.extent c'.extent
  name : c.callee.name? = c'.callee.name?
  arguments : List.Forall₂ w.ArgumentMaps c.arguments c'.arguments

variable (w) in
/-- A node and what has become of it. -/
structure NodeMaps (n n' : Node) : Prop extends w.ArgumentMaps n n' where
  name : n.name? = n'.name?
  form : n.form = n'.form
  isTarget : n.isTarget = n'.isTarget
  isSingleTarget : n.isSingleTarget = n'.isSingleTarget
  isDeletable : n.isDeletable = n'.isDeletable
  calls : List.Forall₂ w.SiteMaps n.calls n'.calls

variable {n n' : Node} {ns ns' : List Node} {e e' : Extent}

theorem calls_of_parts (h : List.Forall₂ w.NodeMaps ns ns') :
    List.Forall₂ w.SiteMaps (Node.callsOf ns) (Node.callsOf ns') := by
  induction h with
  | nil => exact .nil
  | cons hn _ ih => exact List.rel_append hn.calls ih

theorem areTargets_of_parts (h : List.Forall₂ w.NodeMaps ns ns') :
    Node.areTargets ns = Node.areTargets ns' := by
  induction h with
  | nil => rfl
  | cons hn _ ih => rw [Node.areTargets, Node.areTargets, hn.isTarget, ih]

theorem areDeletable_of_parts (h : List.Forall₂ w.NodeMaps ns ns') :
    Node.areDeletable ns = Node.areDeletable ns' := by
  induction h with
  | nil => rfl
  | cons hn _ ih => rw [Node.areDeletable, Node.areDeletable, hn.isDeletable, ih]

/-- A node of several parts corresponds to one of corresponding parts. -/
theorem nodeMaps_compound (he : w.ExtentMaps e e') (form : Form)
    (h : List.Forall₂ w.NodeMaps ns ns') :
    w.NodeMaps (.compound e form ns) (.compound e' form ns') where
  extent := he
  literal := rfl
  spot := nofun
  name := rfl
  form := rfl
  isTarget := by
    cases form with
    | member | subscript | other => rfl
    | tuple | list => exact areTargets_of_parts h
    | starred =>
      match h with
      | .nil => rfl
      | .cons hn .nil =>
        show (_ != _ && _) = (_ != _ && _)
        rw [hn.form, hn.isTarget]
      | .cons _ (.cons _ _) => rfl
  isSingleTarget := rfl
  isDeletable := by
    cases form with
    | member | subscript | other | starred => rfl
    | tuple | list => exact areDeletable_of_parts h
  calls := calls_of_parts h

/-- A node that is no target is looked at for its calls only. -/
theorem nodeMaps_other (he : w.ExtentMaps e e')
    (h : List.Forall₂ w.SiteMaps (Node.callsOf ns) (Node.callsOf ns')) :
    w.NodeMaps (.compound e .other ns) (.compound e' .other ns') where
  extent := he
  literal := rfl
  spot := nofun
  name := rfl
  form := rfl
  isTarget := rfl
  isSingleTarget := rfl
  isDeletable := rfl
  calls := h

theorem nodeMaps_name (he : w.ExtentMaps e e') (id : Text) :
    w.NodeMaps (.name e id) (.name e' id) where
  extent := he
  literal := rfl
  spot := nofun
  name := rfl
  form := rfl
  isTarget := rfl
  isSingleTarget := rfl
  isDeletable := rfl
  calls := .nil

theorem nodeMaps_literal {v v' : Text} (he : w.ExtentMaps e e')
    (hv : some v' = w.literalNow e (some v)) (hspot : w.spots e) :
    w.NodeMaps (.literal e v) (.literal e' v') where
  extent := he
  literal := hv
  spot := fun _ => hspot
  name := rfl
  form := rfl
  isTarget := rfl
  isSingleTarget := rfl
  isDeletable := rfl
  calls := .nil

/-- A call of corresponding parts corresponds to a call. -/
theorem nodeMaps_call {arguments arguments' keywords keywords' : List Node}
    (he : w.ExtentMaps e e') (hcallee : w.NodeMaps n n')
    (harguments : List.Forall₂ w.NodeMaps arguments arguments')
    (hkeywords : List.Forall₂ w.NodeMaps keywords keywords') :
    w.NodeMaps (.call e n arguments keywords) (.call e' n' arguments' keywords') where
  extent := he
  literal := rfl
  spot := nofun
  name := rfl
  form := rfl
  isTarget := rfl
  isSingleTarget := rfl
  isDeletable := rfl
  calls := by
    have hsite : w.SiteMaps ⟨e, n, arguments⟩ ⟨e', n', arguments'⟩ :=
      ⟨he, hcallee.name, harguments.imp fun _ _ h => h.toArgumentMaps⟩
    exact .cons hsite (List.rel_append
      (List.rel_append hcallee.calls (calls_of_parts harguments)) (calls_of_parts hkeywords))

end Rewriting

end TextDomain
