import TextDomain.Proofs.Fixing.Completion

/-!
# The name of the file

Linting a text needs the name of its file for the locations of diagnostics, and
for nothing else. A file that is reached by two paths is therefore fixed in the
same way whichever of them is taken: under another name there are the same
calls, the same diagnostics and the same fixes, each in its place, and only the
name in the locations differs. `inFile` is that change of the name.

For the errors of the contract this would not be true, since two of them quote
the name. They do not occur.

## Main results

* `collectCalls_inFile` — the records of a source under another name.
* `checkCalls_inFile` — the diagnostics of calls under another name.
* `lint_inFile` — linting under another name.
* `fixSource_inFile` — fixing under another name.
-/

namespace TextDomain

/-- The location in a file of another name. -/
def Location.inFile (file : Text) (l : Location) : Location := { l with file := file }

namespace Argument

/-- The argument in a file of another name. -/
def inFile (file : Text) (a : Argument) : Argument :=
  { a with location := a.location.map (Location.inFile file) }

end Argument

/-- The call in a file of another name. -/
def Call.inFile (file : Text) (c : Call) : Call where
  functionName := c.functionName
  arguments := c.arguments.map (Argument.inFile file)
  span := c.span
  location := c.location.map (Location.inFile file)
  inOrder := List.pairwise_map.2 c.inOrder

/-- The diagnostic in a file of another name. -/
def Diagnostic.inFile (file : Text) (d : Diagnostic) : Diagnostic :=
  { d with location := d.location.map (Location.inFile file) }

/-! ## Records -/

section Records

variable {text file : Text} (file' : Text)

theorem SourceIndex.offset_inFile {line column : Int} {i : Nat}
    (h : (ofText text file).offset line column = .ok i) :
    (ofText text file').offset line column = .ok i := by
  unfold offset at h ⊢
  by_cases hline : 1 ≤ line
  · rw [if_pos hline] at h ⊢
    dsimp only [ofText] at h ⊢
    cases hstart : text.lineStarts[(line - 1).toNat]? with
    | none =>
      rw [hstart] at h
      cases h
    | some start =>
      rw [hstart] at h
      exact h
  · rw [if_neg hline] at h
    cases h

theorem SourceIndex.span_inFile {form : Text} {p : Placement} {i j : Nat} {l : Location}
    (h : (ofText text file).span form p = .ok (i, j, l)) :
    (ofText text file').span form p = .ok (i, j, l.inFile file') := by
  obtain ⟨endLine, endColumn, hline, hcolumn, hstart, hstop⟩ := span_eq_ok h
  obtain ⟨line, column, _, _⟩ := p
  obtain rfl := hline
  obtain rfl := hcolumn
  have hspan : (ofText text file).span form _ = _ := span_of_offsets hstart hstop
  rw [h] at hspan
  obtain rfl : l = _ := congrArg (fun r => r.2.2) (Except.ok.inj hspan)
  exact span_of_offsets (offset_inFile file' hstart) (offset_inFile file' hstop)

theorem Argument.build_inFile {isLiteral : Bool} {offsets : List Int} {value : Datum}
    {source : Text} {location : Option Location} {a : Argument}
    (h : build isLiteral offsets value source location = .ok a) :
    build isLiteral offsets value source (location.map (Location.inFile file')) =
      .ok (a.inFile file') := by
  obtain ⟨span, hspan, h⟩ := bind_eq_ok_iff.1 h
  apply bind_eq_ok_iff.2
  refine ⟨span, hspan, ?_⟩
  cases isLiteral with
  | false =>
    obtain rfl := Except.ok.inj h
    rfl
  | true =>
    cases value with
    | text t =>
      obtain rfl := Except.ok.inj h
      rfl
    | _ => cases h

theorem Node.argument_inFile {n : Node} {a : Argument}
    (h : argument (.ofText text file) n = .ok a) :
    argument (.ofText text file') n = .ok (a.inFile file') := by
  obtain ⟨⟨start, stop, location⟩, hspan, h⟩ := bind_eq_ok_iff.1 h
  apply bind_eq_ok_iff.2
  refine ⟨_, SourceIndex.span_inFile file' hspan, ?_⟩
  dsimp only at h ⊢
  cases hliteral : n.literal? with
  | none =>
    rw [hliteral] at h
    exact Argument.build_inFile file' h
  | some value =>
    rw [hliteral] at h
    exact Argument.build_inFile file' h

theorem mapM_map_of_ok {α β ε : Type} {f g : α → Except ε β} {φ : β → β}
    (h : ∀ x y, f x = .ok y → g x = .ok (φ y)) {l : List α} {l' : List β}
    (hl : l.mapM f = .ok l') : l.mapM g = .ok (l'.map φ) := by
  rw [mapM_eq_ok_iff] at hl ⊢
  exact List.forall₂_map_right_iff.2 (hl.imp h)

theorem Call.build_inFile {functionName : Option Text} {arguments : List Argument}
    {offsets : List Int} {location : Option Location} {c : Call}
    (h : build functionName arguments offsets location = .ok c) :
    build functionName (arguments.map (Argument.inFile file')) offsets
      (location.map (Location.inFile file')) = .ok (c.inFile file') := by
  obtain ⟨rfl, rfl, rfl, rfl⟩ := build_ok_iff.1 h
  exact build_ok_iff.2 ⟨rfl, rfl, rfl, rfl⟩

theorem Node.CallSite.record_inFile {c : CallSite} {call : Call}
    (h : c.record (.ofText text file) = .ok call) :
    c.record (.ofText text file') = .ok (call.inFile file') := by
  obtain ⟨⟨start, stop, location⟩, hspan, h⟩ := bind_eq_ok_iff.1 h
  obtain ⟨arguments, harguments, h⟩ := bind_eq_ok_iff.1 h
  apply bind_eq_ok_iff.2
  refine ⟨_, SourceIndex.span_inFile file' hspan, ?_⟩
  apply bind_eq_ok_iff.2
  refine ⟨_, mapM_map_of_ok (fun _ _ => argument_inFile file') harguments, ?_⟩
  exact Call.build_inFile file' h

theorem collectCalls_inFile {calls : List Call} (h : collectCalls text file = .ok calls) :
    collectCalls text file' = .ok (calls.map (Call.inFile file')) := by
  unfold collectCalls at h ⊢
  by_cases hnull : text.contains (Char.ofNat 0) = true
  · rw [if_pos hnull] at h
    cases h
  · rw [if_neg hnull] at h ⊢
    cases htree : Node.ofSource? text with
    | none =>
      rw [htree] at h
      cases h
    | some n =>
      rw [htree] at h
      dsimp only [Node.records] at h ⊢
      cases hcalls : n.calls.mapM (Node.CallSite.record (.ofText text file)) with
      | error e =>
        rw [hcalls] at h
        cases h
      | ok found =>
        rw [hcalls] at h
        obtain rfl : sortedCalls found = calls := Except.ok.inj h
        rw [mapM_map_of_ok (fun _ _ => Node.CallSite.record_inFile file') hcalls]
        exact congrArg Except.ok (sortBy_map (φ := Call.inFile file') (fun _ _ => rfl) found)

end Records

/-! ## Checking -/

section Checking

variable {policy : Policy} (file : Text)

theorem insertionFix_inFile (call : Call) (policy : Policy) :
    insertionFix (call.inFile file) policy = insertionFix call policy := by
  simp only [insertionFix, Call.inFile, List.getLast?_map]
  cases policy.onlyAllowed? with
  | none => rfl
  | some domain => cases call.arguments.getLast? <;> rfl

/-- The domain with its arguments in a file of another name. -/
def Domain.inFile (file : Text) (d : Domain) : Domain :=
  { d with arguments := d.arguments.map (Argument.inFile file) }

theorem removalFix_inFile (d : Domain) : removalFix (d.inFile file) = removalFix d := by
  have hfind : (d.arguments.map (Argument.inFile file)).reverse.find?
        (fun a => decide ((a.span.stop : Int) < d.start)) =
      (d.arguments.reverse.find? fun a => decide ((a.span.stop : Int) < d.start)).map
        (Argument.inFile file) := by
    rw [← List.map_reverse, List.find?_map]
    rfl
  unfold removalFix Domain.inFile
  dsimp only
  rw [hfind]
  cases d.arguments.reverse.find? fun a => decide ((a.span.stop : Int) < d.start) <;> rfl

/-- The outcome in a file of another name. -/
def Outcome.inFile (file : Text) (o : Outcome) : Outcome :=
  { o with domain := o.domain.map (Domain.inFile file) }

theorem evaluate_inFile (call : Call) (policy : Policy) :
    evaluate (call.inFile file) policy = (evaluate call policy).map (Outcome.inFile file) := by
  have hname : (call.inFile file).functionName = call.functionName := rfl
  have hlength : (call.inFile file).arguments.length = call.arguments.length :=
    List.length_map _
  have hdomain : ∀ i, (call.inFile file).domainAt? i =
      (call.domainAt? i).map (Domain.inFile file) := by
    intro i
    simp only [Call.domainAt?, Call.inFile, List.getElem?_map, Option.map_map]
    rfl
  simp only [evaluate, hname, hlength, hdomain]
  cases GettextFunction.ofName? call.functionName with
  | none => rfl
  | some f =>
    dsimp only
    cases f.arityStatus call.arguments.length with
    | some status => rfl
    | none =>
      cases call.domainAt? f.domainIndex.toNat with
      | none => rfl
      | some d =>
        dsimp only [Option.map_some, Domain.inFile]
        split <;> rfl

theorem report_inFile (call : Call) (status : Status) (d? : Option Domain) (policy : Policy) :
    report (call.inFile file) status (d?.map (Domain.inFile file)) policy =
      (report call status d? policy).map (Option.map (Diagnostic.inFile file)) := by
  cases status with
  | missing =>
    simp only [report, insertionFix_inFile]
    split <;> rfl
  | invalidType => rfl
  | valid => rfl
  | invalidDomain =>
    cases d? with
    | none => rfl
    | some d =>
      have hvalue : (d.inFile file).value = d.value := rfl
      have hreplacement : replacementFix (d.inFile file) policy = replacementFix d policy := rfl
      simp only [report, Option.map_some, hvalue, removalFix_inFile, hreplacement]
      split
      · cases removalFix d <;> rfl
      · cases replacementFix d policy <;> rfl

theorem checkCall_inFile (call : Call) (policy : Policy) :
    checkCall (call.inFile file) policy =
      (checkCall call policy).map (Option.map (Diagnostic.inFile file)) := by
  simp only [checkCall, evaluate_inFile]
  cases evaluate call policy with
  | none => rfl
  | some o => exact report_inFile file call o.status o.domain policy

theorem checkCalls_inFile (calls : List Call) (policy : Policy) :
    checkCalls policy (calls.map (Call.inFile file)) =
      (checkCalls policy calls).map (List.map (Diagnostic.inFile file)) := by
  induction calls with
  | nil => rfl
  | cons c rest ih =>
    simp only [List.map_cons, checkCalls, checkCall_inFile, ih]
    cases checkCall c policy with
    | error e => rfl
    | ok d? =>
      cases checkCalls policy rest with
      | error e => rfl
      | ok ds => cases d? <;> rfl

end Checking

/-! ## Linting and fixing -/

section Fixing

variable {policy : Policy} (file file' : Text)

/-- Under another name a text has the same diagnostics, in a file of that
name. -/
theorem lint_inFile (text : Text) :
    lint text policy file' = (lint text policy file).map (List.map (Diagnostic.inFile file')) := by
  by_cases h : WellFormed text
  · obtain ⟨calls, hcalls, -⟩ := h.collectCalls_ok file
    obtain ⟨ds, hds⟩ := h.lint_ok policy file
    have hcheck := checkCalls_of_lint hcalls hds
    rw [hds]
    simp only [lint, collectCalls_inFile file' hcalls, checkCalls_inFile, hcheck]
    rfl
  · obtain ⟨e, -, he⟩ := lint_of_not_wellFormed h
    rw [he, he]
    rfl

/-- The notice about a file of another name. -/
def Notice.inFile (file : Text) : Notice → Notice
  | .fixesDiscarded _ => .fixesDiscarded file
  | n => n

/-- The result of a pass in a file of another name. -/
def Pass.inFile (file : Text) : Pass → Pass
  | .accepted text ds => .accepted text (ds.map (Diagnostic.inFile file))
  | p => p

/-- The result of fixing in a file of another name. -/
def Fixed.inFile (file : Text) (r : Fixed) : Fixed where
  text := r.text
  diagnostics := r.diagnostics.map (Diagnostic.inFile file)
  notices := r.notices.map (Notice.inFile file)

theorem fixesOf_inFile (ds : List Diagnostic) :
    fixesOf (ds.map (Diagnostic.inFile file')) = fixesOf ds := by
  rw [fixesOf, List.filterMap_map]
  rfl

theorem fixPass_inFile (text : Text) (ds : List Diagnostic) :
    fixPass policy file' text (ds.map (Diagnostic.inFile file')) =
      (fixPass policy file text ds).map (Pass.inFile file') := by
  simp only [fixPass, fixesOf_inFile]
  cases fixesOf ds with
  | nil => rfl
  | cons f fs =>
    dsimp only
    cases Fix.applyAll text (f :: fs) with
    | error e => rfl
    | ok applied =>
      obtain ⟨fixed, n⟩ := applied
      cases n with
      | zero => rfl
      | succ n =>
        dsimp only
        rw [lint_inFile file file' fixed]
        cases lint fixed policy file with
        | error e => cases e <;> rfl
        | ok remaining =>
          simp only [Except.map, List.length_map]
          split <;> rfl

theorem fixPasses_inFile (passes : Nat) (text : Text) (ds : List Diagnostic) :
    fixPasses policy file' passes text (ds.map (Diagnostic.inFile file')) =
      (fixPasses policy file passes text ds).map (Fixed.inFile file') := by
  induction passes generalizing text ds with
  | zero => rfl
  | succ passes ih =>
    simp only [fixPasses]
    rw [fixPass_inFile file]
    cases fixPass policy file text ds with
    | error e => rfl
    | ok pass =>
      cases pass with
      | done => rfl
      | discarded => rfl
      | accepted fixed remaining => exact ih fixed remaining

/-- Under another name a text is fixed in the same way. -/
theorem fixSource_inFile (text : Text) :
    fixSource text policy file' = (fixSource text policy file).map (Fixed.inFile file') := by
  simp only [fixSource]
  rw [lint_inFile file]
  cases lint text policy file with
  | error e => rfl
  | ok ds => exact fixPasses_inFile file file' maxPasses text ds

end Fixing

end TextDomain
