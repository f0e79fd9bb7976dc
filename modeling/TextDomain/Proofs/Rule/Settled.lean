import Mathlib.Data.List.InsertIdx
import TextDomain.Proofs.Rule.Table

/-!
# What is left to report after an edit

A fix stands for a change of the arguments: a literal with the only allowed domain comes
in behind them or in the place of the domain, or the domain goes. `Call.EditedTo` is that
change, whatever places the arguments have afterwards.

A replacement always settles the call. An insertion puts its literal right behind the
arguments, which is the domain slot only if a single argument was lacking. A removal moves
the arguments behind the domain up by one, so what comes to stand in the domain slot is
judged in its turn. `Call.SettledBy` says when nothing is left to report.

## Main results

* `checkCall_eq_ok_none_iff` — when there is nothing to report on a call of a gettext
  function.
* `checkCall_after_edit` — after the edit of an attached fix there is nothing to report
  exactly if the edit settles the call.
-/

namespace TextDomain

/-- What the arguments of a call are, without their places. -/
def Call.contents (c : Call) : List Content := c.arguments.map (·.content)

/-- `c.EditedTo policy slot kind c'`: `c'` is the call after an edit of this kind, with its
arguments in any places. -/
inductive Call.EditedTo (policy : Policy) (c : Call) (slot : Nat) : FixKind → Call → Prop where
  /-- The only allowed domain comes in behind the arguments. -/
  | insert {c' : Call} {domain : Text} (only : policy.allowed = [domain])
      (name : c'.functionName = c.functionName)
      (contents : c'.contents = c.contents ++ [.literal domain]) :
      c.EditedTo policy slot .insert c'
  /-- The only allowed domain comes in the place of the domain. -/
  | replace {c' : Call} {domain : Text} (only : policy.allowed = [domain])
      (name : c'.functionName = c.functionName)
      (contents : c'.contents = c.contents.set slot (.literal domain)) :
      c.EditedTo policy slot .replace c'
  /-- The domain goes. -/
  | delete {c' : Call} (name : c'.functionName = c.functionName)
      (contents : c'.contents = c.contents.eraseIdx slot) : c.EditedTo policy slot .delete c'

/-- Whether an edit of a kind leaves nothing to report on a call of the function. -/
def Call.SettledBy (policy : Policy) (c : Call) (f : GettextFunction) : FixKind → Prop
  | .insert => (c.arguments.length : Int) + 1 = f.requiredCount
  | .replace => True
  | .delete => (c.arguments.length : Int) = f.requiredCount ∨
      ∃ next value, c.arguments[f.domainIndex.toNat + 1]? = some next ∧
        next.content = .literal value ∧ value ∈ policy.allowed

variable {policy : Policy} {c c' : Call} {f : GettextFunction}

/-! ## Nothing to report -/

theorem Call.length_contents (c : Call) : c.contents.length = c.arguments.length :=
  List.length_map ..

theorem Call.getElem?_contents {i : Nat} {content : Content} :
    c.contents[i]? = some content ↔ ∃ arg, c.arguments[i]? = some arg ∧ arg.content = content := by
  rw [Call.contents, List.getElem?_map, Option.map_eq_some_iff]

/-- The domain slot is the last required argument. -/
theorem GettextFunction.requiredCount_eq (callee : ofName? c.functionName = some f) :
    f.requiredCount = f.domainIndex.toNat + 1 := by
  have hlast := f.domain_last
  have hone := one_le_domainIndex callee
  omega

/-- There is nothing to report on a call that may be short, and on one with an allowed
literal in the domain slot. -/
theorem checkCall_eq_ok_none_iff (callee : GettextFunction.ofName? c.functionName = some f) :
    checkCall c policy = .ok none ↔
      (c.contents.length ≤ f.domainIndex.toNat ∧ policy.allowDefault = true) ∨
        ∃ value ∈ policy.allowed, c.contents[f.domainIndex.toNat]? = some (.literal value) := by
  have hknown := GettextFunction.ofName?_eq_some_iff.1 callee
  have hcount := GettextFunction.requiredCount_eq callee
  constructor
  · intro h
    obtain ⟨status?, found, hrow, hfound⟩ := checkCall_eq_ok_iff.1 h
    have hunique : ∀ {g : GettextFunction},
        g ∈ GettextFunction.table ∧ c.functionName = some g.name → g = f := by
      intro g hg
      exact Option.some.inj ((GettextFunction.ofName?_eq_some_iff.2 hg).symm.trans callee)
    obtain rfl : found = none := Option.map_eq_none_iff.1 hfound.symm
    cases hrow with
    | foreign hforeign => exact absurd hknown.2 (hforeign f hknown.1)
    | optional hg short permitted =>
      obtain rfl := hunique hg
      rw [Call.length_contents]
      exact .inl ⟨by omega, permitted⟩
    | valid hg slot content allowed =>
      obtain rfl := hunique hg
      exact .inr ⟨_, allowed, Call.getElem?_contents.2 ⟨_, slot, content⟩⟩
  · rintro (⟨short, permitted⟩ | ⟨value, allowed, hcontent⟩)
    · rw [Call.length_contents] at short
      exact (Call.Row.optional hknown (by omega) permitted).checkCall
    · obtain ⟨arg, slot, content⟩ := Call.getElem?_contents.1 hcontent
      exact (Call.Row.valid hknown slot content allowed).checkCall

/-! ## After an insertion -/

/-- An insertion settles a call exactly if a single argument was lacking. -/
theorem Call.EditedTo.settled_of_insert
    (callee : GettextFunction.ofName? c.functionName = some f)
    (short : (c.arguments.length : Int) < f.requiredCount) (required : policy.allowDefault = false)
    (h : c.EditedTo policy f.domainIndex.toNat .insert c') :
    checkCall c' policy = .ok none ↔ c.SettledBy policy f .insert := by
  have hcount := GettextFunction.requiredCount_eq callee
  have hlength := c.length_contents
  cases h with
  | @insert _ domain only name contents =>
    rw [checkCall_eq_ok_none_iff (name ▸ callee), contents, required]
    show _ ↔ (c.arguments.length : Int) + 1 = f.requiredCount
    constructor
    · rintro (⟨-, hpermitted⟩ | ⟨value, -, hslot⟩)
      · cases hpermitted
      · -- The slot is one of the new call, but none of the old one.
        have hlt := (List.getElem?_eq_some_iff.1 hslot).1
        rw [List.length_append, List.length_singleton] at hlt
        omega
    · intro hone
      have hslot : f.domainIndex.toNat = c.contents.length := by omega
      rw [hslot, List.getElem?_concat_length, only]
      exact .inr ⟨domain, List.mem_singleton_self domain, rfl⟩

theorem Call.exists_editedTo_insert {slot : Nat} {domain : Text} {last : Argument}
    (only : policy.allowed = [domain]) (anchor : c.arguments.getLast? = some last) :
    ∃ c', c.EditedTo policy slot .insert c' := by
  obtain ⟨init, hinit⟩ := List.getLast?_eq_some_iff.1 anchor
  have hbehind : ∀ a ∈ c.arguments, a.span.stop ≤ last.span.stop := by
    have horder : (init ++ [last]).Pairwise Argument.Before := hinit ▸ c.inOrder
    rw [hinit, List.forall_mem_append, List.forall_mem_singleton]
    constructor
    · intro a ha
      have hbefore := (List.pairwise_append.1 horder).2.2 a ha last (List.mem_singleton_self last)
      exact Nat.le_trans hbefore last.span.start_le_stop
    · exact Nat.le_refl _
  let new : Argument := { content := .literal domain, span := .empty last.span.stop }
  have horder : (c.arguments ++ [new]).Pairwise Argument.Before := by
    rw [List.pairwise_append]
    refine ⟨c.inOrder, List.pairwise_singleton .., fun a ha b hb => ?_⟩
    rw [List.mem_singleton.1 hb]
    exact hbehind a ha
  exact ⟨{ c with arguments := _, inOrder := horder }, .insert only rfl List.map_append⟩

/-! ## After a replacement -/

/-- A replacement settles every call. -/
theorem Call.EditedTo.settled_of_replace {arg : Argument}
    (callee : GettextFunction.ofName? c.functionName = some f)
    (slot : c.arguments[f.domainIndex.toNat]? = some arg)
    (h : c.EditedTo policy f.domainIndex.toNat .replace c') :
    checkCall c' policy = .ok none ↔ c.SettledBy policy f .replace := by
  have hlt := (List.getElem?_eq_some_iff.1 slot).1
  rw [← c.length_contents] at hlt
  cases h with
  | @replace _ domain only name contents =>
    rw [checkCall_eq_ok_none_iff (name ▸ callee), contents, List.getElem?_set_self hlt, only]
    show _ ↔ True
    rw [iff_true]
    exact .inr ⟨domain, List.mem_singleton_self domain, rfl⟩

theorem pairwise_before_iff {args : List Argument} :
    args.Pairwise Argument.Before ↔
      (args.map (·.span)).Pairwise fun s t => s.stop ≤ t.start := by
  rw [List.pairwise_map]
  rfl

theorem Call.exists_editedTo_replace {slot : Nat} {domain : Text} {arg : Argument}
    (only : policy.allowed = [domain]) (hslot : c.arguments[slot]? = some arg) :
    ∃ c', c.EditedTo policy slot .replace c' := by
  let new : Argument := { arg with content := .literal domain }
  -- The order of arguments is one of their places, and these stay as they are.
  have hplaces : (c.arguments.set slot new).map (·.span) = c.arguments.map (·.span) := by
    have hspan : (c.arguments.map (·.span))[slot]? = some new.span := by
      rw [List.getElem?_map, hslot]
      rfl
    obtain ⟨hlt, hspan⟩ := List.getElem?_eq_some_iff.1 hspan
    rw [List.map_set, ← hspan, List.set_getElem_self]
  have horder : (c.arguments.set slot new).Pairwise Argument.Before := by
    rw [pairwise_before_iff, hplaces, ← pairwise_before_iff]
    exact c.inOrder
  exact ⟨{ c with arguments := _, inOrder := horder }, .replace only rfl List.map_set⟩

/-! ## After a removal -/

/-- A removal settles a call exactly if it leaves no more than a short call, or an allowed
literal behind the domain. -/
theorem Call.EditedTo.settled_of_delete {arg : Argument}
    (callee : GettextFunction.ofName? c.functionName = some f)
    (slot : c.arguments[f.domainIndex.toNat]? = some arg) (permitted : policy.allowDefault = true)
    (h : c.EditedTo policy f.domainIndex.toNat .delete c') :
    checkCall c' policy = .ok none ↔ c.SettledBy policy f .delete := by
  have hcount := GettextFunction.requiredCount_eq callee
  have hlength := c.length_contents
  have hlt := (List.getElem?_eq_some_iff.1 slot).1
  cases h with
  | delete name contents =>
    rw [checkCall_eq_ok_none_iff (name ▸ callee), contents, permitted,
      List.length_eraseIdx_of_lt (by omega), List.getElem?_eraseIdx_of_ge (Nat.le_refl _)]
    show _ ↔ (c.arguments.length : Int) = f.requiredCount ∨ _
    refine or_congr ⟨fun hshort => by omega, fun heq => ⟨by omega, rfl⟩⟩ ?_
    constructor
    · rintro ⟨value, allowed, hnext⟩
      obtain ⟨next, hnext, hcontent⟩ := Call.getElem?_contents.1 hnext
      exact ⟨next, value, hnext, hcontent, allowed⟩
    · rintro ⟨next, value, hnext, hcontent, allowed⟩
      exact ⟨value, allowed, Call.getElem?_contents.2 ⟨next, hnext, hcontent⟩⟩

theorem Call.exists_editedTo_delete (policy : Policy) (c : Call) (slot : Nat) :
    ∃ c', c.EditedTo policy slot .delete c' := by
  have horder := c.inOrder.sublist (List.eraseIdx_sublist c.arguments slot)
  exact ⟨{ c with arguments := _, inOrder := horder }, .delete rfl (List.eraseIdx_map ..).symm⟩

/-! ## After the edit of a fix -/

/-- A fix of a diagnostic stands for an edit of the call, and after it there is nothing to
report exactly if the edit settles the call: a replacement always does, an insertion where
a single argument was lacking, and a removal where nothing stands behind the domain or
right behind it an allowed literal. -/
theorem checkCall_after_edit {d : Diagnostic} {fix : Fix}
    (h : checkCall c policy = .ok (some d)) (hfix : d.fix = some fix) :
    ∃ f, GettextFunction.ofName? c.functionName = some f ∧
      (∃ c', c.EditedTo policy f.domainIndex.toNat fix.kind c') ∧
      ∀ c', c.EditedTo policy f.domainIndex.toNat fix.kind c' →
        (checkCall c' policy = .ok none ↔ c.SettledBy policy f fix.kind) := by
  cases attachedFix_of_checkCall h hfix with
  | insertion gettext short required only anchor =>
    have only := Policy.onlyAllowed?_eq_some_iff.1 only
    exact ⟨_, gettext, Call.exists_editedTo_insert only anchor,
      fun c' hedit => hedit.settled_of_insert gettext short required⟩
  | replacement gettext slot _ _ made =>
    cases replacementFix_eq_ok_iff.1 made with
    | between only | whole only =>
      exact ⟨_, gettext, Call.exists_editedTo_replace only slot,
        fun c' hedit => hedit.settled_of_replace gettext slot⟩
  | removal gettext slot _ permitted made =>
    cases removalFix_eq_ok_iff.1 made with
    | made =>
      exact ⟨_, gettext, Call.exists_editedTo_delete policy c _,
        fun c' hedit => hedit.settled_of_delete gettext slot permitted⟩

/-- The call of the text `__('item', 'default', 'shop')`. -/
def crowdedCall : Call where
  functionName := "__".toList
  arguments := [⟨.literal "item".toList, ⟨3, 9, by decide⟩, "'item'".toList, none⟩,
    ⟨.literal "default".toList, ⟨11, 20, by decide⟩, "'default'".toList, none⟩,
    ⟨.literal "shop".toList, ⟨22, 28, by decide⟩, "'shop'".toList, none⟩]
  span := ⟨0, 29, by decide⟩
  location := none
  inOrder := by decide

/-- Without the domain, the argument behind it is in the domain slot. Whether there is
anything to report then depends on what is allowed. -/
theorem checkCall_after_edit_crowded :
    (∃ d, checkCall crowdedCall { allowDefault := true, allowed := ["shop".toList] } =
        .ok (some d) ∧ d.fix = some ⟨.delete, ⟨9, 20, by decide⟩, []⟩) ∧
      (∀ c', crowdedCall.EditedTo { allowDefault := true, allowed := ["shop".toList] } 1 .delete c' →
        checkCall c' { allowDefault := true, allowed := ["shop".toList] } = .ok none) ∧
      (∃ c', crowdedCall.EditedTo { allowDefault := true } 1 .delete c') ∧
      ∀ c', crowdedCall.EditedTo { allowDefault := true } 1 .delete c' →
        checkCall c' { allowDefault := true } ≠ .ok none := by
  obtain ⟨d, hd, hfix⟩ : ∃ d,
      checkCall crowdedCall { allowDefault := true, allowed := ["shop".toList] } = .ok (some d) ∧
        d.fix = some ⟨.delete, ⟨9, 20, by decide⟩, []⟩ := ⟨_, rfl, rfl⟩
  obtain ⟨d', hd', hfix'⟩ : ∃ d', checkCall crowdedCall { allowDefault := true } = .ok (some d') ∧
      d'.fix = some ⟨.delete, ⟨9, 20, by decide⟩, []⟩ := ⟨_, rfl, rfl⟩
  refine ⟨⟨d, hd, hfix⟩, ?_, ?_⟩
  · obtain ⟨f, hf, -, hsettled⟩ := checkCall_after_edit hd hfix
    obtain rfl : GettextFunction.single = f := Option.some.inj hf
    intro c' hedit
    exact (hsettled c' hedit).2 (.inr ⟨_, _, rfl, rfl, List.mem_singleton_self _⟩)
  · obtain ⟨f, hf, hedited, hsettled⟩ := checkCall_after_edit hd' hfix'
    obtain rfl : GettextFunction.single = f := Option.some.inj hf
    refine ⟨hedited, fun c' hedit hnone => ?_⟩
    rcases (hsettled c' hedit).1 hnone with hcount | ⟨_, value, _, _, hallowed⟩
    · exact absurd hcount (by decide)
    · exact absurd hallowed List.not_mem_nil

end TextDomain
