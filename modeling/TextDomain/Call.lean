import TextDomain.Datum.Basic
import TextDomain.Span

/-!
# Calls and their arguments

A call as the linter sees it: the name of the function, if the callee is a
plain name, and the positional arguments with their places in the source.

Only two things can be wrong with a call whose arguments are each in order:
its own range, and an argument that begins before the end of its neighbour.
Since no argument ends before it begins, looking at neighbours is enough to
know that *every* two arguments are apart; `Call` therefore carries the
statement about all pairs.

## Main results

* `pairwise_iff_neighboursInOrder` — neighbours in order, all pairs in order.
* `Call.build_ok_iff` — exactly the calls with a valid range and arguments in
  source order exist.
-/

namespace TextDomain

/-! ## Arguments -/

/-- What is known of an argument's value. -/
inductive Content where
  /-- The argument is a string literal with this value. -/
  | literal (value : Text)
  /-- The argument is something else; the host may have attached a value. -/
  | other (value : Datum)

/-- A positional argument. -/
structure Argument where
  /-- The value. -/
  content : Content
  /-- The place in the source. -/
  span : Span
  /-- The text of the argument in the source, empty when the host has none. -/
  source : Text := []
  /-- The place as lines and columns. -/
  location : Option Location := none

namespace Argument

/-- Whether the argument is a string literal. -/
def isLiteral (a : Argument) : Bool :=
  match a.content with
  | .literal _ => true
  | .other _ => false

/-- The value of a literal. -/
def literal? (a : Argument) : Option Text :=
  match a.content with
  | .literal value => some value
  | .other _ => none

/-- The value, whatever the argument is. -/
def value (a : Argument) : Datum :=
  match a.content with
  | .literal value => .text value
  | .other value => value

/-- Checks an argument as a host describes it: first its range, then that a
literal has a text for a value. -/
def build (isLiteral : Bool) (offsets : List Int) (value : Datum) (source : Text)
    (location : Option Location) : Except ContractError Argument := do
  let span ← Span.ofOffsets .argument offsets
  if isLiteral then
    match value with
    | .text t => .ok ⟨.literal t, span, source, location⟩
    | _ => .error (.literalWithoutText span)
  else .ok ⟨.other value, span, source, location⟩

/-- The first argument ends at or before the beginning of the second. -/
def Before (a b : Argument) : Prop := a.span.stop ≤ b.span.start

instance (a b : Argument) : Decidable (Before a b) :=
  inferInstanceAs (Decidable (_ ≤ _))

theorem Before.trans {a b c : Argument} (hab : Before a b) (hbc : Before b c) : Before a c :=
  Nat.le_trans hab (Nat.le_trans b.span.start_le_stop hbc)

end Argument

/-! ## Source order -/

/-- Whether every argument ends at or before the beginning of the next one. -/
def neighboursInOrder : List Argument → Bool
  | a :: b :: rest => decide (a.Before b) && neighboursInOrder (b :: rest)
  | _ => true

/-- Neighbours are in order exactly when all pairs are. -/
theorem pairwise_iff_neighboursInOrder (args : List Argument) :
    args.Pairwise Argument.Before ↔ neighboursInOrder args = true := by
  fun_induction neighboursInOrder args with
  | case1 a b rest ih =>
    simp only [Bool.and_eq_true, decide_eq_true_eq, ← ih, List.pairwise_cons, List.mem_cons]
    constructor
    · rintro ⟨h, hb, hrest⟩
      exact ⟨h b (.inl rfl), hb, hrest⟩
    · rintro ⟨hab, hb, hrest⟩
      refine ⟨?_, hb, hrest⟩
      rintro x (rfl | hx)
      · exact hab
      · exact hab.trans (hb x hx)
  | case2 args h =>
    match args, h with
    | [], _ => simp
    | [a], _ => simp
    | a :: b :: rest, h => exact absurd rfl (h a b rest)

/-! ## Calls -/

/-- A call, its positional arguments in source order. -/
structure Call where
  /-- The name of the function; absent when the callee is not a plain name. -/
  functionName : Option Text
  /-- The positional arguments. -/
  arguments : List Argument
  /-- The place in the source. -/
  span : Span
  /-- The place as lines and columns. -/
  location : Option Location
  /-- Every argument ends at or before the beginning of every later one. -/
  inOrder : arguments.Pairwise Argument.Before

/-- Checks a call whose arguments have been checked: first its range, then the
order of the arguments. -/
def Call.build (functionName : Option Text) (arguments : List Argument) (offsets : List Int)
    (location : Option Location) : Except ContractError Call :=
  match Span.ofOffsets .call offsets with
  | .error e => .error e
  | .ok span =>
    if h : neighboursInOrder arguments = true then
      .ok ⟨functionName, arguments, span, location,
        (pairwise_iff_neighboursInOrder arguments).2 h⟩
    else .error (.argumentsOutOfOrder functionName)

/-- A call is accepted exactly when its range is valid and its arguments are
in source order; it then has the parts it was built from. -/
theorem Call.build_ok_iff {functionName : Option Text} {arguments : List Argument}
    {offsets : List Int} {location : Option Location} {c : Call} :
    Call.build functionName arguments offsets location = .ok c ↔
      c.functionName = functionName ∧ c.arguments = arguments ∧
        offsets = c.span.offsets ∧ c.location = location := by
  obtain ⟨name, args, span, loc, h⟩ := c
  unfold Call.build
  split
  next e he =>
    simp only [reduceCtorEq, false_iff]
    rintro ⟨-, -, ho, -⟩
    rw [Span.ofOffsets_ok_iff.2 ho] at he
    cases he
  next s hs =>
    have ho := Span.ofOffsets_ok_iff.1 hs
    split
    next hn =>
      simp only [Except.ok.injEq, Call.mk.injEq]
      constructor
      · rintro ⟨rfl, rfl, rfl, rfl⟩; exact ⟨rfl, rfl, ho, rfl⟩
      · rintro ⟨rfl, rfl, ho', rfl⟩
        refine ⟨rfl, rfl, ?_, rfl⟩
        have := (@Span.ofOffsets_ok_iff .call _ _).2 ho'
        rw [hs] at this
        exact Except.ok.inj this
    next hn =>
      simp only [reduceCtorEq, false_iff]
      rintro ⟨-, rfl, -, -⟩
      exact hn ((pairwise_iff_neighboursInOrder _).1 h)

end TextDomain
