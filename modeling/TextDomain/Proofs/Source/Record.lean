import Mathlib.Data.List.Forall2
import TextDomain.Proofs.Rule.Placement
import TextDomain.Proofs.Source.Boundary
import TextDomain.Source.Calls

/-!
# The records of a tree

A tree whose positions stand in the text, with the positional arguments of its
calls one after another, gives a record for every call. The offsets of the
records are in the order of the positions, so no record is refused, and every
argument carries exactly the text between its offsets.

`Node.Placed` is what is asked of the tree: positions on existing lines at
boundaries of characters, no end before its beginning, neighbouring arguments
apart, and string literals of two characters at least. `Node.Recorded` and
`CallSite.Recorded` say how the records answer to it.

## Main results

* `exists_recorded` — an argument is recorded with the text between its ends.
* `records_of_placed` — the calls of a placed tree are all recorded.
-/

namespace TextDomain

/-! ## Placed trees -/

/-- The extent stands in the text from offset `i` to offset `j`. -/
structure Extent.Spans (text : Text) (e : Extent) (i j : Nat) : Prop where
  start : e.start.StandsAt text i
  stop : e.stop.StandsAt text j
  start_le_stop : e.start ≤ e.stop

namespace Node

/-- What the record of a call relies on: the call and its arguments stand in the
text, every argument ends before the next one begins, and string literals have
two characters at least. -/
structure CallSite.Placed (text : Text) (c : CallSite) : Prop where
  extent : ∃ i j, c.extent.Spans text i j
  arguments : ∀ a ∈ c.arguments, ∃ i j, a.extent.Spans text i j
  apart : c.arguments.IsChain fun a b => a.extent.stop < b.extent.start
  literals : ∀ a ∈ c.arguments, a.literal?.isSome = true →
    ∀ i j, a.extent.Spans text i j → i + 2 ≤ j

/-- All calls of the tree are placed in the text. -/
def Placed (text : Text) (n : Node) : Prop := ∀ c ∈ n.calls, c.Placed text

/-! ## Arguments -/

variable {text file : Text}

/-- The record of an argument: its span is where the node stands, and its source
is the text of that span. -/
structure Recorded (text : Text) (n : Node) (a : Argument) : Prop where
  spans : n.extent.Spans text a.span.start a.span.stop
  source : a.source = a.span.slice text
  isLiteral : a.isLiteral = n.literal?.isSome

theorem span_of_spans {e : Extent} {i j : Nat} (h : e.Spans text i j) (file form : Text) :
    ∃ location, (SourceIndex.ofText text file).span form
      ⟨e.start.line, e.start.column, some e.stop.line, some e.stop.column⟩ =
        .ok (i, j, location) :=
  ⟨_, SourceIndex.span_of_offsets (h.start.offset file) (h.stop.offset file)⟩

/-- An argument that stands in the text is recorded. -/
theorem exists_recorded {n : Node} (h : ∃ i j, n.extent.Spans text i j) (file : Text) :
    ∃ a, argument (.ofText text file) n = .ok a ∧ Recorded text n a := by
  obtain ⟨i, j, hspans⟩ := h
  have hle : i ≤ j := hspans.start.le_of_le hspans.stop hspans.start_le_stop
  have hspan : Span.ofOffsets .argument [i, j] = .ok ⟨i, j, hle⟩ := Span.ofOffsets_ok_iff.2 rfl
  obtain ⟨location, hlocation⟩ := span_of_spans hspans file n.formWord
  unfold argument placement
  rw [hlocation]
  cases hliteral : n.literal? with
  | none =>
    refine ⟨⟨.other .null, ⟨i, j, hle⟩, (text.drop i).take (j - i), some location⟩, ?_,
      ⟨hspans, rfl, by rw [hliteral]; rfl⟩⟩
    show Argument.build false [(i : Int), j] .null _ _ = _
    rw [Argument.build, hspan]
    rfl
  | some value =>
    refine ⟨⟨.literal value, ⟨i, j, hle⟩, (text.drop i).take (j - i), some location⟩, ?_,
      ⟨hspans, rfl, by rw [hliteral]; rfl⟩⟩
    show Argument.build true [(i : Int), j] (.text value) _ _ = _
    rw [Argument.build, hspan]
    rfl

/-- The source of a record is as long as its span. -/
theorem Recorded.length_source {n : Node} {a : Argument} (h : Recorded text n a) :
    a.source.length = a.span.length := by
  rw [h.source]
  exact Span.length_slice h.spans.stop.le_length

/-! ## Calls -/

/-- Results of a check that succeeds on all elements of a list. -/
theorem mapM_of_forall_ok {α β ε : Type} {f : α → Except ε β} {R : α → β → Prop} {l : List α}
    (h : ∀ x ∈ l, ∃ y, f x = .ok y ∧ R x y) :
    ∃ l', l.mapM f = .ok l' ∧ List.Forall₂ R l l' := by
  induction l with
  | nil => exact ⟨[], rfl, .nil⟩
  | cons x l ih =>
    obtain ⟨y, hy, hr⟩ := h x (List.mem_cons_self ..)
    obtain ⟨l', hl', hrs⟩ := ih fun x' hx' => h x' (List.mem_cons_of_mem x hx')
    refine ⟨y :: l', ?_, .cons hr hrs⟩
    rw [List.mapM_cons, hy, hl']
    rfl

theorem exists_mem_of_forall₂ {α β : Type} {R : α → β → Prop} {l : List α} {l' : List β} {y : β}
    (h : List.Forall₂ R l l') (hy : y ∈ l') : ∃ x ∈ l, R x y := by
  induction h with
  | nil => cases hy
  | @cons x z l l' hr _ ih =>
    rcases List.mem_cons.1 hy with rfl | hy
    · exact ⟨x, List.mem_cons_self .., hr⟩
    · obtain ⟨x', hx', hr'⟩ := ih hy
      exact ⟨x', List.mem_cons_of_mem x hx', hr'⟩

/-- The records of arguments of which neighbours lie apart lie apart from each
other. -/
theorem pairwise_of_recorded {nodes : List Node} {args : List Argument}
    (hrecorded : List.Forall₂ (Recorded text) nodes args)
    (hapart : nodes.IsChain fun a b => a.extent.stop < b.extent.start) :
    args.Pairwise fun a b => a.span.stop < b.span.start := by
  have htrans : Trans (fun a b : Argument => a.span.stop < b.span.start)
      (fun a b : Argument => a.span.stop < b.span.start)
      (fun a b : Argument => a.span.stop < b.span.start) :=
    ⟨fun {a b c} hab hbc => by have := b.span.start_le_stop; omega⟩
  refine List.IsChain.pairwise ?_
  induction hrecorded with
  | nil => exact .nil
  | @cons n a nodes args hn hrest ih =>
    cases hrest with
    | nil => exact .singleton a
    | @cons n' a' nodes args hn' hrest =>
      obtain ⟨hlt, hapart⟩ := List.isChain_cons_cons.1 hapart
      exact List.isChain_cons_cons.2 ⟨hn.spans.stop.lt_of_lt hn'.spans.start hlt, ih hapart⟩

/-- The record of a call: its arguments lie apart, and each has the text of its
span for a source. -/
structure CallSite.Recorded (text : Text) (call : Call) : Prop where
  spaced : call.Spaced
  source : ∀ a ∈ call.arguments, a.source = a.span.slice text ∧ a.source.length = a.span.length

/-- A call that is placed in the text is recorded. -/
theorem CallSite.Placed.exists_recorded {c : CallSite} (h : c.Placed text) (file : Text) :
    ∃ call, c.record (.ofText text file) = .ok call ∧ CallSite.Recorded text call := by
  obtain ⟨i, j, hspans⟩ := h.extent
  have hle : i ≤ j := hspans.start.le_of_le hspans.stop hspans.start_le_stop
  obtain ⟨location, hlocation⟩ := span_of_spans hspans file "Call".toList
  obtain ⟨args, hargs, hrecorded⟩ := mapM_of_forall_ok (R := fun n a => n ∈ c.arguments ∧
    Node.Recorded text n a) fun n hn =>
      let ⟨a, ha, hra⟩ := Node.exists_recorded (h.arguments n hn) file
      ⟨a, ha, hn, hra⟩
  have hapart := pairwise_of_recorded (hrecorded.imp fun _ _ hr => hr.2) h.apart
  let call : Call := ⟨c.callee.name?, args, ⟨i, j, hle⟩, some location,
    hapart.imp fun hlt => Nat.le_of_lt hlt⟩
  have hcall : Call.build c.callee.name? args [i, j] (some location) = .ok call :=
    Call.build_ok_iff.2 ⟨rfl, rfl, rfl, rfl⟩
  refine ⟨call, ?_, ⟨⟨hapart, ?_, ?_⟩, ?_⟩⟩
  · let n : Node := .call c.extent c.callee c.arguments []
    have hspan : (SourceIndex.ofText text file).span n.formWord n.placement =
        .ok (i, j, location) := hlocation
    unfold CallSite.record
    dsimp only
    rw [hspan]
    show (do
      let arguments ← c.arguments.mapM (argument (.ofText text file))
      Call.build c.callee.name? arguments [(i : Int), j] (some location)) = _
    rw [hargs]
    exact hcall
  · intro a ha hliteral
    obtain ⟨n, -, hn, hr⟩ := exists_mem_of_forall₂ hrecorded ha
    exact h.literals n hn (hr.isLiteral ▸ hliteral) _ _ hr.spans
  · intro a ha _
    obtain ⟨n, -, hn, hr⟩ := exists_mem_of_forall₂ hrecorded ha
    exact hr.length_source
  · intro a ha
    obtain ⟨n, -, hn, hr⟩ := exists_mem_of_forall₂ hrecorded ha
    exact ⟨hr.source, hr.length_source⟩

/-- The calls of a placed tree are all recorded. -/
theorem records_of_placed {n : Node} (h : n.Placed text) (file : Text) :
    ∃ calls, n.records (.ofText text file) = .ok calls ∧
      ∀ call ∈ calls, CallSite.Recorded text call := by
  obtain ⟨calls, hcalls, hrecorded⟩ := mapM_of_forall_ok
    (R := fun _ call => CallSite.Recorded text call) fun c hc => (h c hc).exists_recorded file
  refine ⟨sortedCalls calls, ?_, ?_⟩
  · rw [records, hcalls]
    rfl
  · intro call hcall
    obtain ⟨c, -, hc⟩ := exists_mem_of_forall₂ hrecorded (mem_sortedCalls.1 hcall)
    exact hc

end Node

end TextDomain
