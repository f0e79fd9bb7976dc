import TextDomain.Proofs.Source.Lexed
import TextDomain.Proofs.Source.Nesting
import TextDomain.Proofs.Source.Record

/-!
# Calls that lie in a text

The calls of a tree lie in a text that was read as tokens if their ends and
those of their arguments are positions of its characters, neighbouring arguments
are apart, and every argument that is a string literal has a character between
its ends. Calls that are read from a replacement field lie in the text around
it. Every call leads the calls inside it.

Positions of characters stand in the source, so a tree whose calls lie in the
tokens of a source is placed in the source.

## Main results

* `Holds.mono` — what lies in a text lies in a text around it.
* `holds_compound`, `holds_call` — calls of a node are those of its parts.
* `Holds.placed` — a tree whose calls lie in the text is placed in it.
-/

namespace TextDomain

namespace Token.Lexed

variable (l : Lexed)

/-- The ends of a node are positions of characters, with another one between
them if the node is a string literal. -/
structure Bounds (n : Node) : Prop where
  start : l.Inside n.extent.start
  stop : l.Inside n.extent.stop
  start_le_stop : n.extent.start ≤ n.extent.stop
  literal : n.literal?.isSome = true →
    ∃ p, l.Inside p ∧ n.extent.start < p ∧ p < n.extent.stop

/-- The ends of a call and of its arguments are positions of characters, the call lies
behind the beginning of a token, and no argument ends where the next one begins. -/
structure BoundsCall (c : Node.CallSite) : Prop where
  behind : l.Behind c.extent.start
  start : l.Inside c.extent.start
  stop : l.Inside c.extent.stop
  start_le_stop : c.extent.start ≤ c.extent.stop
  arguments : ∀ a ∈ c.arguments, l.Bounds a
  apart : c.arguments.IsChain fun a b => a.extent.stop < b.extent.start

/-- All calls of a node lie in the text, and each leads the calls inside it. -/
structure Holds (n : Node) : Prop where
  calls : ∀ c ∈ n.calls, l.BoundsCall c
  nested : n.Nested

variable {l} {l' : Lexed}

theorem Bounds.mono (hinside : ∀ p, l'.Inside p → l.Inside p) {n : Node} (h : l'.Bounds n) :
    l.Bounds n where
  start := hinside _ h.start
  stop := hinside _ h.stop
  start_le_stop := h.start_le_stop
  literal := fun hliteral =>
    let ⟨p, hp, hlt, hlt'⟩ := h.literal hliteral
    ⟨p, hinside p hp, hlt, hlt'⟩

theorem Holds.mono (hinside : ∀ p, l'.Inside p → l.Inside p)
    (hbehind : ∀ p, l'.Behind p → l.Behind p) {n : Node} (h : l'.Holds n) : l.Holds n where
  calls := fun c hc =>
    { behind := hbehind _ (h.calls c hc).behind
      start := hinside _ (h.calls c hc).start
      stop := hinside _ (h.calls c hc).stop
      start_le_stop := (h.calls c hc).start_le_stop
      arguments := fun a ha => ((h.calls c hc).arguments a ha).mono hinside
      apart := (h.calls c hc).apart }
  nested := h.nested

theorem holds_of_no_calls {n : Node} (hcall : n.callSite? = none) (hparts : n.children = []) :
    l.Holds n where
  calls := by
    rw [Node.calls_eq, hcall, hparts]
    exact nofun
  nested := by
    refine .node ?_ ?_
    · rw [hparts]
      exact nofun
    · rw [hcall]
      exact nofun

theorem holds_name (e : Extent) (id : Text) : l.Holds (.name e id) := holds_of_no_calls rfl rfl

theorem holds_literal (e : Extent) (value : Text) : l.Holds (.literal e value) :=
  holds_of_no_calls rfl rfl

theorem holds_compound {e : Extent} {form : Form} {parts : List Node}
    (h : ∀ n ∈ parts, l.Holds n) : l.Holds (.compound e form parts) where
  calls := by
    intro c hc
    obtain ⟨n, hn, hc⟩ := Node.mem_callsOf.1 hc
    exact (h n hn).calls c hc
  nested := .node (fun n hn => (h n hn).nested) nofun

theorem holds_call {e : Extent} {callee : Node} {arguments keywords : List Node}
    (hcall : l.BoundsCall ⟨e, callee, arguments⟩) (hcallee : l.Holds callee)
    (harguments : ∀ n ∈ arguments, l.Holds n) (hkeywords : ∀ n ∈ keywords, l.Holds n)
    (hleads : ∀ n ∈ callee :: (arguments ++ keywords), ∀ c ∈ n.calls, e.Leads c.extent) :
    l.Holds (.call e callee arguments keywords) := by
  have hparts : ∀ n ∈ callee :: (arguments ++ keywords), l.Holds n :=
    List.forall_mem_cons.2 ⟨hcallee, List.forall_mem_append.2 ⟨harguments, hkeywords⟩⟩
  constructor
  · intro c hc
    rcases Node.mem_calls.1 hc with hc | ⟨n, hn, hc⟩
    · obtain rfl := Option.some.inj hc
      exact hcall
    · exact (hparts n hn).calls c hc
  · refine .node (fun n hn => (hparts n hn).nested) fun c hc n hn => ?_
    obtain rfl := Option.some.inj hc
    exact hleads n hn

/-! ## Looking from a token on -/

theorem Bounds.of_onFrom {ts : List Token} {h : ts <:+ l.tokens} {n : Node}
    (hn : (l.onFrom h).Bounds n) : l.Bounds n :=
  hn.mono fun _ => inside_onFrom.1

theorem Holds.of_onFrom {ts : List Token} {h : ts <:+ l.tokens} {n : Node}
    (hn : (l.onFrom h).Holds n) : l.Holds n :=
  hn.mono (fun _ => inside_onFrom.1) fun _ => Behind.of_onFrom

/-! ## Placed trees -/

theorem exists_spans {text : Text} (hstands : ∀ p, l.Inside p → ∃ i, p.StandsAt text i)
    {e : Extent} (hstart : l.Inside e.start) (hstop : l.Inside e.stop) (hle : e.start ≤ e.stop) :
    ∃ i j, e.Spans text i j := by
  obtain ⟨i, hi⟩ := hstands _ hstart
  obtain ⟨j, hj⟩ := hstands _ hstop
  exact ⟨i, j, hi, hj, hle⟩

/-- A tree whose calls lie in the text is placed in it. -/
theorem Holds.placed {text : Text} (hstands : ∀ p, l.Inside p → ∃ i, p.StandsAt text i) {n : Node}
    (h : l.Holds n) : n.Placed text := by
  intro c hc
  have hcall := h.calls c hc
  refine ⟨exists_spans hstands hcall.start hcall.stop hcall.start_le_stop, ?_, hcall.apart, ?_⟩
  · intro a ha
    have hbounds := hcall.arguments a ha
    exact exists_spans hstands hbounds.start hbounds.stop hbounds.start_le_stop
  · intro a ha hliteral i j hspans
    obtain ⟨p, hp, hlt, hlt'⟩ := (hcall.arguments a ha).literal hliteral
    obtain ⟨k, hk⟩ := hstands p hp
    have hik := hspans.start.lt_of_lt hk hlt
    have hkj := hk.lt_of_lt hspans.stop hlt'
    omega

end Token.Lexed

end TextDomain
