import TextDomain.Proofs.Source.Record

/-!
# Records lie inside their text

Offsets are found by walking from the beginning of a line as far as the byte
column allows, and never past the end of the text. So every record lies inside
the text, whatever tree it was made of; nothing has to be known of the tree.

What is used is where the parts of a record come from: two offsets from the
position of its node, the arguments one by one from the arguments of the node.

## Main results

* `mapM_eq_ok_iff` — a check of a list succeeds element by element.
* `SourceIndex.span_eq_ok` — a placement with offsets has an end.
* `stop_le_length_of_collectCalls` — recorded arguments lie inside the text.
-/

namespace TextDomain

variable {text file : Text}

/-! ## Offsets -/

theorem SourceIndex.offset_le_length {line column : Int} {i : Nat}
    (h : (ofText text file).offset line column = .ok i) : i ≤ text.length := by
  unfold offset at h
  split at h
  next =>
    split at h
    next start hstart =>
      obtain rfl := Except.ok.inj h
      have hle := (Text.mem_lineStarts.1 (List.mem_of_getElem? hstart)).1
      have hlength := length_takeWithin_le text start column
      simp only [ofText]
      omega
    next => cases h
  next => cases h

/-- Two steps succeed exactly if the first one does, and the second one after it. -/
theorem bind_eq_ok_iff {α β ε : Type} {x : Except ε α} {f : α → Except ε β} {b : β} :
    x >>= f = .ok b ↔ ∃ a, x = .ok a ∧ f a = .ok b := by
  cases x with
  | error e =>
    constructor
    · intro h
      cases h
    · rintro ⟨a, ⟨⟩, _⟩
  | ok a =>
    constructor
    · intro h
      exact ⟨a, rfl, h⟩
    · rintro ⟨_, ⟨⟩, h⟩
      exact h

/-- What a placement needs to have offsets. -/
theorem SourceIndex.span_eq_ok {index : SourceIndex} {form : Text} {p : Placement} {i j : Nat}
    {l : Location} (h : index.span form p = .ok (i, j, l)) :
    ∃ endLine endColumn, p.endLine = some endLine ∧ p.endColumn = some endColumn ∧
      index.offset p.line p.column = .ok i ∧ index.offset endLine endColumn = .ok j := by
  obtain ⟨line, column, endLine, endColumn⟩ := p
  cases endLine with
  | none => cases h
  | some endLine =>
    cases endColumn with
    | none => cases h
    | some endColumn =>
      obtain ⟨start, hstart, h⟩ := bind_eq_ok_iff.1 h
      obtain ⟨stop, hstop, h⟩ := bind_eq_ok_iff.1 h
      obtain ⟨rfl, rfl, -⟩ := h
      exact ⟨endLine, endColumn, rfl, rfl, hstart, hstop⟩

theorem Argument.build_offsets {isLiteral : Bool} {offsets : List Int} {value : Datum}
    {source : Text} {location : Option Location} {a : Argument}
    (h : build isLiteral offsets value source location = .ok a) : offsets = a.span.offsets := by
  obtain ⟨span, hspan, h⟩ := bind_eq_ok_iff.1 h
  rw [Span.ofOffsets_ok_iff.1 hspan]
  cases isLiteral with
  | false =>
    obtain rfl := Except.ok.inj h
    rfl
  | true =>
    cases value with
    | text t =>
      obtain rfl := Except.ok.inj h
      rfl
    | _ => cases h

/-! ## Records -/

/-- A recorded argument lies inside the text. -/
theorem Node.argument_stop_le_length {n : Node} {a : Argument}
    (h : argument (.ofText text file) n = .ok a) : a.span.stop ≤ text.length := by
  obtain ⟨⟨start, stop, location⟩, hspan, h⟩ := bind_eq_ok_iff.1 h
  obtain ⟨endLine, endColumn, -, -, -, hstop⟩ := SourceIndex.span_eq_ok hspan
  have hle := SourceIndex.offset_le_length hstop
  have hoffsets : [(start : Int), (stop : Int)] = a.span.offsets := by
    dsimp only at h
    cases hliteral : n.literal? with
    | none =>
      rw [hliteral] at h
      exact Argument.build_offsets h
    | some value =>
      rw [hliteral] at h
      exact Argument.build_offsets h
  simp only [Span.offsets, List.cons.injEq, Int.natCast_inj] at hoffsets
  omega

theorem Node.CallSite.arguments_of_record {index : SourceIndex} {c : CallSite} {call : Call}
    (h : c.record index = .ok call) : c.arguments.mapM (argument index) = .ok call.arguments := by
  obtain ⟨_, -, h⟩ := bind_eq_ok_iff.1 h
  obtain ⟨arguments, harguments, h⟩ := bind_eq_ok_iff.1 h
  rw [harguments, (Call.build_ok_iff.1 h).2.1]

/-- A check of a list succeeds exactly if it does so for every element. -/
theorem mapM_eq_ok_iff {α β ε : Type} {f : α → Except ε β} {l : List α} {l' : List β} :
    l.mapM f = .ok l' ↔ List.Forall₂ (fun x y => f x = .ok y) l l' := by
  induction l generalizing l' with
  | nil =>
    constructor
    · intro h
      obtain rfl := Except.ok.inj h
      exact .nil
    · intro h
      cases h
      rfl
  | cons x rest ih =>
    rw [List.mapM_cons]
    constructor
    · intro h
      obtain ⟨y, hy, h⟩ := bind_eq_ok_iff.1 h
      obtain ⟨ys, hys, h⟩ := bind_eq_ok_iff.1 h
      obtain rfl := Except.ok.inj h
      exact .cons hy (ih.1 hys)
    · intro h
      cases h with
      | cons hx hrest =>
        rw [hx, ih.2 hrest]
        rfl

/-- The arguments of recorded calls lie inside the text. -/
theorem stop_le_length_of_collectCalls {calls : List Call} (h : collectCalls text file = .ok calls)
    {call : Call} (hcall : call ∈ calls) {a : Argument} (ha : a ∈ call.arguments) :
    a.span.stop ≤ text.length := by
  unfold collectCalls at h
  split at h
  next => cases h
  next =>
    cases htree : Node.ofSource? text with
    | none =>
      rw [htree] at h
      cases h
    | some n =>
      rw [htree] at h
      dsimp only [Node.records] at h
      cases hfound : n.calls.mapM (Node.CallSite.record (.ofText text file)) with
      | error e =>
        rw [hfound] at h
        cases h
      | ok found =>
        rw [hfound] at h
        obtain rfl : sortedCalls found = calls := Except.ok.inj h
        obtain ⟨c, -, hrecord⟩ :=
          Node.exists_mem_of_forall₂ (mapM_eq_ok_iff.1 hfound) (mem_sortedCalls.1 hcall)
        obtain ⟨n, -, hargument⟩ := Node.exists_mem_of_forall₂
          (mapM_eq_ok_iff.1 (Node.CallSite.arguments_of_record hrecord)) ha
        exact Node.argument_stop_le_length hargument

end TextDomain
