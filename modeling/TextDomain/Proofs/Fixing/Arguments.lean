import TextDomain.Proofs.Fixing.Separation
import TextDomain.Proofs.Fixing.Splice

/-!
# The arguments that a fix leaves alone

A fix of a call is about its domain, and all that it may touch besides is what stands
between arguments. An argument that it avoids is found again in the new text. Before the
fix nothing is moved, and behind it everything is moved by the length that the fix adds,
so that the new text has the source of the argument at a place that is known.

## Main results

* `Fix.kept_applyTo` — what a fix avoids is found again.
* `fix_spares_arguments` — all of this for the fix of a diagnostic.
-/

namespace TextDomain

/-- The arguments of a call lie in a text apart from each other, and have what stands there
for a source. -/
structure Call.ReadFrom (text : Text) (c : Call) : Prop where
  inside : ∀ a ∈ c.arguments, a.span.stop ≤ text.length
  apart : c.arguments.Pairwise fun a b => a.span.stop < b.span.start
  source : ∀ a ∈ c.arguments, a.source = a.span.slice text

/-! ## What is found again -/

namespace Fix

variable {f : Fix} {text : Text} {s : Span}

/-- Before a fix the new text is the old one. -/
theorem slice_applyTo_before (hinside : f.span.stop ≤ text.length)
    (h : s.stop ≤ f.span.start) : s.slice (f.applyTo text) = s.slice text := by
  have hproper := f.span.start_le_stop
  have hlength : s.stop ≤ (text.take f.span.start).length := by
    rw [List.length_take]
    omega
  calc s.slice (f.applyTo text)
      = s.slice (text.take f.span.start) := by
        rw [applyTo, List.append_assoc, Span.slice_append_left hlength]
    _ = s.slice (text.take f.span.start ++ text.drop f.span.start) :=
        (Span.slice_append_left hlength _).symm
    _ = s.slice text := by rw [List.take_append_drop]

/-- Where a span behind a fix comes to lie when the fix is carried out. -/
def moved (f : Fix) (s : Span) : Span where
  start := f.span.start + f.text.length + (s.start - f.span.stop)
  stop := f.span.start + f.text.length + (s.stop - f.span.stop)
  start_le_stop := by
    have := s.start_le_stop
    omega

/-- Behind a fix the new text is the old one, moved. Seen from the end of the fix, nothing
has changed. -/
theorem slice_applyTo_moved (hinside : f.span.stop ≤ text.length) (h : f.span.stop ≤ s.start) :
    (f.moved s).slice (f.applyTo text) = s.slice text := by
  have hproper := f.span.start_le_stop
  have hfront : (text.take f.span.start ++ f.text).length = f.span.start + f.text.length := by
    rw [List.length_append, List.length_take]
    omega
  have hstop : (text.take f.span.stop).length = f.span.stop := by
    rw [List.length_take]
    omega
  have hlength : (f.moved s).length = s.length := by
    have := s.start_le_stop
    simp only [Span.length, moved]
    omega
  have hbehind : f.span.start + f.text.length ≤ (f.moved s).start := Nat.le_add_right ..
  calc (f.moved s).slice (f.applyTo text)
      = ((text.drop f.span.stop).drop (s.start - f.span.stop)).take s.length := by
        rw [applyTo, Span.slice_append_right (by omega), hfront, hlength, moved,
          Nat.add_sub_cancel_left]
    _ = s.slice (text.take f.span.stop ++ text.drop f.span.stop) := by
        rw [Span.slice_append_right (by omega), hstop]
    _ = s.slice text := by rw [List.take_append_drop]

/-- `f.Kept fixed s part`: what stood at a span of the old text is found in the new one. It is
at the same place if the span ends at or before the beginning of the fix, and moved by what the
fix adds if it begins behind its end. -/
inductive Kept (f : Fix) (fixed : Text) (s : Span) (part : Text) : Prop where
  /-- Before the fix nothing is moved. -/
  | before (ahead : s.stop ≤ f.span.start) (found : s.slice fixed = part)
  /-- Behind the fix everything is moved. -/
  | behind {s' : Span} (beyond : f.span.stop < s.start)
      (start : (s'.start : Int) = s.start + f.growth)
      (stop : (s'.stop : Int) = s.stop + f.growth) (found : s'.slice fixed = part)

/-- What a fix avoids is found again. -/
theorem kept_applyTo (hinside : f.span.stop ≤ text.length)
    (havoids : s.stop ≤ f.span.start ∨ f.span.stop < s.start) :
    f.Kept (f.applyTo text) s (s.slice text) := by
  rcases havoids with hahead | hbeyond
  · exact .before hahead (slice_applyTo_before hinside hahead)
  · have hproper := f.span.start_le_stop
    have hproper' := s.start_le_stop
    have hstart : ((f.moved s).start : Int) = s.start + f.growth := by
      simp only [moved, growth, Span.length]
      omega
    have hstop : ((f.moved s).stop : Int) = s.stop + f.growth := by
      simp only [moved, growth, Span.length]
      omega
    exact .behind hbeyond hstart hstop (slice_applyTo_moved hinside (Nat.le_of_lt hbeyond))

end Fix

/-! ## The fix of a diagnostic -/

/-- The fix of a diagnostic is made where its kind says, and avoids every argument but the
domain. Carried out on its own it leaves the sources of these arguments in the text, those
behind it moved by the length that it adds. -/
theorem fix_spares_arguments {text : Text} {c : Call} (h : c.ReadFrom text) {policy : Policy}
    {d : Diagnostic} {fix : Fix} (hd : checkCall c policy = .ok (some d))
    (hfix : d.fix = some fix) :
    ∃ f, GettextFunction.ofName? c.functionName = some f ∧
      c.FixAt f.domainIndex.toNat fix ∧
      (∀ i a, i ≠ f.domainIndex.toNat → c.arguments[i]? = some a →
        a.span.stop ≤ fix.span.start ∨ fix.span.stop < a.span.start) ∧
      ∃ fixed, Fix.applyAll text [fix] = .ok (fixed, 1) ∧
        ∀ i a, i ≠ f.domainIndex.toNat → c.arguments[i]? = some a →
          fix.Kept fixed a.span a.source := by
  obtain ⟨f, hf, hat⟩ := (attachedFix_of_checkCall hd hfix).fixAt h.apart
  obtain ⟨last, hlast, hle⟩ := hat.exists_stop_le
  have hinside : fix.span.stop ≤ text.length := Nat.le_trans hle (h.inside last hlast)
  refine ⟨f, hf, hat, fun i a hi ha => hat.avoids h.apart hi ha, fix.applyTo text,
    Fix.applyAll_singleton hinside, ?_⟩
  intro i a hi ha
  rw [h.source a (List.mem_of_getElem? ha)]
  exact Fix.kept_applyTo hinside (hat.avoids h.apart hi ha)

/-- The call of the text `__('a', 'default', x)`. -/
def removableCall : Call where
  functionName := "__".toList
  arguments := [⟨.literal "a".toList, ⟨3, 6, by decide⟩, "'a'".toList, none⟩,
    ⟨.literal "default".toList, ⟨8, 17, by decide⟩, "'default'".toList, none⟩,
    ⟨.other .null, ⟨19, 20, by decide⟩, "x".toList, none⟩]
  span := ⟨0, 21, by decide⟩
  location := none
  inOrder := by decide

/-- Without the domain the text is `__('a', x)`, and its last argument is moved. -/
theorem fix_spares_arguments_removable :
    removableCall.ReadFrom "__('a', 'default', x)".toList ∧
      ∃ d, checkCall removableCall { allowDefault := true } = .ok (some d) ∧
        d.fix = some ⟨.delete, ⟨6, 17, by decide⟩, []⟩ ∧
        removableCall.FixAt 1 ⟨.delete, ⟨6, 17, by decide⟩, []⟩ ∧
        ∃ fixed, Fix.applyAll "__('a', 'default', x)".toList
            [⟨.delete, ⟨6, 17, by decide⟩, []⟩] = .ok (fixed, 1) ∧
          ∀ i a, i ≠ 1 → removableCall.arguments[i]? = some a →
            Fix.Kept ⟨.delete, ⟨6, 17, by decide⟩, []⟩ fixed a.span a.source := by
  have hread : removableCall.ReadFrom "__('a', 'default', x)".toList :=
    ⟨by decide, by decide, by decide⟩
  obtain ⟨d, hd, hfix⟩ : ∃ d, checkCall removableCall { allowDefault := true } = .ok (some d) ∧
      d.fix = some ⟨.delete, ⟨6, 17, by decide⟩, []⟩ := ⟨_, rfl, rfl⟩
  obtain ⟨f, hf, hat, -, hkept⟩ := fix_spares_arguments hread hd hfix
  obtain rfl : GettextFunction.single = f := Option.some.inj hf
  exact ⟨hread, d, hd, hfix, hat, hkept⟩

end TextDomain
