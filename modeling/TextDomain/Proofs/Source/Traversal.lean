import Mathlib.Data.List.Nodup
import Mathlib.Data.List.Perm.Basic
import TextDomain.Proofs.Fixing.Contract
import TextDomain.Proofs.Source.Inside

/-!
# The order of records

Records come in the order of their ranges, whatever the order was in which the calls of a
tree were found. To say that none is left out and none is there twice, the nodes of a tree
are counted by another traversal than the one that collects the calls: `Node.walk` goes
through the tree level by level.

The sort decides nothing between calls of one range. Where there are no such calls, records
can be sorted in one way only, so every traversal leads to the same list.

In the tree of a source, a call leads the calls inside it. So do the offsets, and its record
comes first.

## Main results

* `Node.callSites_perm` — both traversals find the same calls.
* `Node.records_of_perm` — the calls may be found in any order.
* `Node.leads_of_below` — the record of a call leads those of the calls inside it.
* `records_in_source_order` — what the records of a tree are, and those of a source.
-/

namespace TextDomain

/-! ## Another traversal -/

namespace Node

theorem sizeOf_append_add_one (ns ns' : List Node) :
    sizeOf (ns ++ ns') + 1 = sizeOf ns + sizeOf ns' := by
  induction ns with
  | nil =>
    rw [List.nil_append, List.nil.sizeOf_spec]
    omega
  | cons n ns ih =>
    rw [List.cons_append, List.cons.sizeOf_spec, List.cons.sizeOf_spec]
    omega

theorem sizeOf_children_le (n : Node) : sizeOf n.children ≤ sizeOf n := by
  cases n with
  | name | literal =>
    simp only [children, List.nil.sizeOf_spec, Node.name.sizeOf_spec, Node.literal.sizeOf_spec]
    omega
  | call e callee arguments keywords =>
    have happend := sizeOf_append_add_one arguments keywords
    simp only [children, List.cons.sizeOf_spec, Node.call.sizeOf_spec]
    omega
  | compound e form parts =>
    simp only [children, Node.compound.sizeOf_spec]
    omega

/-- The nodes of several trees: these first, then what is inside them. -/
def walkFrom : List Node → List Node
  | [] => []
  | n :: rest => n :: walkFrom (rest ++ n.children)
termination_by ns => sizeOf ns
decreasing_by
  have hparts := n.sizeOf_children_le
  have happend := sizeOf_append_add_one rest n.children
  rw [List.cons.sizeOf_spec]
  omega

/-- The nodes of a tree, level by level. -/
def walk (n : Node) : List Node := walkFrom [n]

/-- The calls of a tree, level by level. -/
def callSites (n : Node) : List CallSite := n.walk.filterMap callSite?

theorem filterMap_walkFrom_perm (ns : List Node) :
    ((walkFrom ns).filterMap callSite?).Perm (callsOf ns) := by
  -- The induction follows the walk: the parts of a node wait behind its siblings.
  fun_induction walkFrom ns with
  | case1 => exact .refl []
  | case2 n rest ih =>
    have hparts : ((walkFrom (rest ++ n.children)).filterMap callSite?).Perm
        (callsOf n.children ++ callsOf rest) := by
      rw [callsOf_append] at ih
      exact ih.trans List.perm_append_comm
    rw [callsOf, calls_eq, List.append_assoc]
    cases hcall : n.callSite? with
    | none => rw [List.filterMap_cons_none hcall]; exact hparts
    | some c => rw [List.filterMap_cons_some hcall]; exact hparts.cons c

/-- Both traversals find the same calls. -/
theorem callSites_perm (n : Node) : n.callSites.Perm n.calls := by
  have hperm := filterMap_walkFrom_perm [n]
  rw [callsOf, callsOf, List.append_nil] at hperm
  exact hperm

theorem mem_walkFrom {m : Node} (ns : List Node) :
    m ∈ walkFrom ns ↔ ∃ n ∈ ns, m = n ∨ m.Below n := by
  fun_induction walkFrom ns with
  | case1 => simp
  | case2 n rest ih =>
    rw [List.mem_cons, ih]
    constructor
    · rintro (rfl | ⟨k, hk, hm⟩)
      · exact ⟨m, List.mem_cons_self .., .inl rfl⟩
      · rcases List.mem_append.1 hk with hk | hk
        · exact ⟨k, List.mem_cons_of_mem n hk, hm⟩
        · refine ⟨n, List.mem_cons_self .., .inr ?_⟩
          rcases hm with rfl | hm
          · exact .part hk
          · exact .deeper hm hk
    · rintro ⟨k, hk, hm⟩
      rcases List.mem_cons.1 hk with rfl | hk
      · rcases hm with rfl | hm
        · exact .inl rfl
        · right
          cases hm with
          | part h => exact ⟨m, List.mem_append_right rest h, .inl rfl⟩
          | deeper h hk => exact ⟨_, List.mem_append_right rest hk, .inr h⟩
      · exact .inr ⟨k, List.mem_append_left _ hk, hm⟩

/-- The walk comes to the node itself and to everything below it. -/
theorem mem_walk {m n : Node} : m ∈ n.walk ↔ m = n ∨ m.Below n := by
  rw [walk, mem_walkFrom]
  simp

/-- In a nested tree, every call leads the calls below it. -/
theorem Nested.leads {m n k : Node} (hn : n.Nested) (hm : m ∈ n.walk) (hk : k.Below m)
    {c c' : CallSite} (hc : m.callSite? = some c) (hc' : k.callSite? = some c') :
    c.extent.Leads c'.extent := by
  have hnested : m.Nested := by
    rcases mem_walk.1 hm with rfl | hm
    · exact hn
    · exact hm.nested hn
  obtain ⟨part, hpart, hmem⟩ := hk.mem_calls hc'
  cases hnested with
  | node _ leads => exact leads c hc part hpart c' hmem

theorem mem_calls_of_mem_walk {m n : Node} (hm : m ∈ n.walk) {c : CallSite}
    (hc : m.callSite? = some c) : c ∈ n.calls :=
  n.callSites_perm.mem_iff.1 (List.mem_filterMap.2 ⟨m, hm, hc⟩)

end Node

/-! ## Records in order -/

/-- The range of the first record begins before that of the second, or begins with it and
ends behind it. -/
def Call.Leads (a b : Call) : Prop :=
  a.span.start < b.span.start ∨ (a.span.start = b.span.start ∧ b.span.stop < a.span.stop)

theorem Call.precedes_iff {a b : Call} :
    a.precedes b = true ↔ a.span.start < b.span.start ∨
      (a.span.start = b.span.start ∧ b.span.stop ≤ a.span.stop) :=
  decide_eq_true_iff

theorem pairwise_sortedCalls (calls : List Call) :
    (sortedCalls calls).Pairwise (fun a b => a.precedes b = true) := by
  refine pairwise_sortBy ?_ ?_ calls
  · intro a b
    simp only [Call.precedes_iff]
    omega
  · intro a b c
    simp only [Call.precedes_iff]
    omega

/-- In a list in source order, what leads comes first. -/
theorem Call.Leads.lt {calls : List Call} (hsorted : calls.Pairwise fun a b => a.precedes b = true)
    {a b : Call} (h : a.Leads b) {i j : Nat} (hi : calls[i]? = some a) (hj : calls[j]? = some b) :
    i < j := by
  obtain ⟨hilt, rfl⟩ := List.getElem?_eq_some_iff.1 hi
  obtain ⟨hjlt, rfl⟩ := List.getElem?_eq_some_iff.1 hj
  unfold Call.Leads at h
  by_contra hle
  rcases Nat.lt_or_eq_of_le (Nat.le_of_not_lt hle) with hlt | rfl
  · have hprecedes := List.pairwise_iff_getElem.1 hsorted j i hjlt hilt hlt
    rw [Call.precedes_iff] at hprecedes
    omega
  · omega

/-- Without two records of one range, records can be sorted in one way only. -/
theorem sortedCalls_of_perm {calls calls' : List Call} (h : calls.Perm calls')
    (hdistinct : (calls.map (·.span)).Nodup) : sortedCalls calls = sortedCalls calls' := by
  have hperm := ((sortBy_perm Call.precedes calls).trans h).trans
    (sortBy_perm Call.precedes calls').symm
  refine hperm.eq_of_pairwise ?_ (pairwise_sortedCalls calls) (pairwise_sortedCalls calls')
  intro a b ha hb hab hba
  rw [Call.precedes_iff] at hab hba
  have hspan : a.span = b.span :=
    Span.le_antisymm (Span.le_iff.2 (by omega)) (Span.le_iff.2 (by omega))
  exact List.inj_on_of_nodup_map hdistinct (mem_sortedCalls.1 ha)
    (h.mem_iff.2 (mem_sortedCalls.1 hb)) hspan

/-! ## The records of a tree -/

theorem Node.records_eq_ok_iff {index : SourceIndex} {n : Node} {calls : List Call} :
    n.records index = .ok calls ↔ ∃ records,
      List.Forall₂ (fun c r => CallSite.record index c = .ok r) n.calls records ∧
        sortedCalls records = calls := by
  simp only [← mapM_eq_ok_iff]
  exact map_eq_ok_iff

/-- The calls of a tree may be found in any order, as long as no two of their records have
one range. -/
theorem Node.records_of_perm {index : SourceIndex} {n : Node} {calls : List Call}
    (h : n.records index = .ok calls) (hdistinct : (calls.map (·.span)).Nodup)
    {sites : List CallSite} (hperm : sites.Perm n.calls) :
    sortedCalls <$> sites.mapM (CallSite.record index) = .ok calls := by
  obtain ⟨records, hrecords, rfl⟩ := records_eq_ok_iff.1 h
  obtain ⟨records', hrecords', hperm'⟩ := List.perm_comp_forall₂ hperm hrecords
  have hspans : (records.map (·.span)).Nodup :=
    ((sortBy_perm Call.precedes records).map _).nodup_iff.1 hdistinct
  rw [map_eq_ok_iff]
  exact ⟨records', mapM_eq_ok_iff.2 hrecords', (sortedCalls_of_perm hperm'.symm hspans).symm⟩

/-! ## The records of a source -/

namespace Node

variable {text file : Text}

/-- The range of a record is where the call stands. -/
theorem CallSite.span_of_record {c : CallSite} {call : Call}
    (h : c.record (.ofText text file) = .ok call) {i j : Nat} (hspans : c.extent.Spans text i j) :
    call.span.start = i ∧ call.span.stop = j := by
  obtain ⟨⟨start, stop, location⟩, hspan, h⟩ := bind_eq_ok_iff.1 h
  obtain ⟨_, -, h⟩ := bind_eq_ok_iff.1 h
  obtain ⟨location', hlocation⟩ := span_of_spans hspans file "Call".toList
  have hoffsets := (Call.build_ok_iff.1 h).2.2.1
  obtain ⟨rfl, rfl, rfl⟩ : i = start ∧ j = stop ∧ location' = location := by
    simpa using Except.ok.inj (hlocation.symm.trans hspan)
  simp only [Span.offsets, List.cons.injEq, and_true] at hoffsets
  omega

/-- The record of a call leads that of another one if the call does. -/
theorem CallSite.leads_of_record {c c' : CallSite} (hplaced : c.Placed text)
    (hplaced' : c'.Placed text) (hleads : c.extent.Leads c'.extent) {a b : Call}
    (ha : c.record (.ofText text file) = .ok a) (hb : c'.record (.ofText text file) = .ok b) :
    a.Leads b := by
  obtain ⟨i, j, hspans⟩ := hplaced.extent
  obtain ⟨i', j', hspans'⟩ := hplaced'.extent
  obtain ⟨rfl, rfl⟩ := CallSite.span_of_record ha hspans
  obtain ⟨rfl, rfl⟩ := CallSite.span_of_record hb hspans'
  rcases hleads with hlt | ⟨heq, hlt⟩
  · exact .inl (hspans.start.lt_of_lt hspans'.start hlt)
  · have hle := hspans.start.le_of_le hspans'.start heq.le
    have hge := hspans'.start.le_of_le hspans.start heq.ge
    exact .inr ⟨Nat.le_antisymm hle hge, hspans'.stop.lt_of_lt hspans.stop hlt⟩

end Node

/-- `n.InSourceOrder index calls`: the calls are the records of the tree in the order of
their ranges, in whatever order the calls of the tree are found. -/
structure Node.InSourceOrder (index : SourceIndex) (n : Node) (calls : List Call) : Prop where
  /-- There is one record for each call of the tree, at any depth. -/
  complete : ∃ records,
    List.Forall₂ (fun c r => CallSite.record index c = .ok r) n.callSites records ∧
      calls.Perm records
  /-- Records come by beginning, and by the end from the last one for one beginning. -/
  ordered : calls.Pairwise fun a b => a.span.start < b.span.start ∨
    (a.span.start = b.span.start ∧ b.span.stop ≤ a.span.stop)
  /-- Unless two records have one range, every way through the tree leads to this list. -/
  independent : (calls.map (·.span)).Nodup → ∀ sites : List CallSite, sites.Perm n.callSites →
    sortedCalls <$> sites.mapM (CallSite.record index) = .ok calls

theorem Node.inSourceOrder {index : SourceIndex} {n : Node} {calls : List Call}
    (h : n.records index = .ok calls) : n.InSourceOrder index calls where
  complete := by
    obtain ⟨records, hrecords, rfl⟩ := records_eq_ok_iff.1 h
    obtain ⟨records', hrecords', hperm⟩ := List.perm_comp_forall₂ n.callSites_perm hrecords
    exact ⟨records', hrecords', (sortBy_perm Call.precedes records).trans hperm.symm⟩
  ordered := by
    obtain ⟨records, -, rfl⟩ := records_eq_ok_iff.1 h
    exact (pairwise_sortedCalls records).imp Call.precedes_iff.1
  independent := fun hdistinct _ hperm =>
    records_of_perm h hdistinct (hperm.trans n.callSites_perm)

/-- In the tree of a source, the record of a call leads those of the calls below it. -/
theorem Node.leads_of_below {text file : Text} {n m k : Node} (hn : Node.ofSource? text = some n)
    (hm : m ∈ n.walk) (hk : k.Below m) {c c' : CallSite} (hc : m.callSite? = some c)
    (hc' : k.callSite? = some c') {a b : Call} (ha : c.record (.ofText text file) = .ok a)
    (hb : c'.record (.ofText text file) = .ok b) : a.Leads b := by
  have hplaced := placed_of_ofSource? hn
  have hkn : k ∈ n.walk := by
    rw [mem_walk] at hm ⊢
    rcases hm with rfl | hm
    · exact .inr hk
    · exact .inr (hk.trans hm)
  exact CallSite.leads_of_record (hplaced c (mem_calls_of_mem_walk hm hc))
    (hplaced c' (mem_calls_of_mem_walk hkn hc'))
    ((nested_of_ofSource? hn).leads hm hk hc hc') ha hb

/-- The records of a tree are one for each of its calls, in source order. A source with a
tree has such records, and among them every call comes before those inside it. -/
theorem records_in_source_order :
    (∀ (index : SourceIndex) (n : Node) (calls : List Call),
      n.records index = .ok calls → n.InSourceOrder index calls) ∧
    ∀ (text file : Text) (n : Node), text.contains (Char.ofNat 0) = false →
      Node.ofSource? text = some n →
      ∃ calls, collectCalls text file = .ok calls ∧ n.InSourceOrder (.ofText text file) calls ∧
        ∀ (m k : Node) (c c' : Node.CallSite) (a b : Call), m ∈ n.walk → k.Below m →
          m.callSite? = some c → k.callSite? = some c' →
          c.record (.ofText text file) = .ok a → c'.record (.ofText text file) = .ok b →
          ∀ i j : Nat, calls[i]? = some a → calls[j]? = some b → i < j := by
  refine ⟨fun index n calls => Node.inSourceOrder, fun text file n hnull hn => ?_⟩
  obtain ⟨calls, hcalls, -⟩ := Node.records_of_placed (Node.placed_of_ofSource? hn) file
  have hcollected : collectCalls text file = .ok calls := by
    rw [collectCalls, hnull, hn]
    simp only [hcalls, Bool.false_eq_true, if_false]
  obtain ⟨records, -, rfl⟩ := Node.records_eq_ok_iff.1 hcalls
  refine ⟨_, hcollected, Node.inSourceOrder hcalls, ?_⟩
  intro m k c c' a b hm hk hc hc' ha hb i j hi hj
  exact (Node.leads_of_below hn hm hk hc hc' ha hb).lt (pairwise_sortedCalls records) hi hj

/-- The call of what `f(g(x))` gives begins with `f(g(x))`, and comes first. -/
example : (collectCalls "f(g(x))(y)".toList []).toOption.map
    (List.map fun c => (c.functionName, c.span.start, c.span.stop)) =
      some [(none, 0, 10), (some ['f'], 0, 7), (some ['g'], 2, 6)] := by
  decide +kernel

end TextDomain
