import TextDomain.Proofs.Counting.Literal

/-!
# What expressions owe to their tokens

One lemma for each rule of `Source.Grammar.Expression`: every part that a rule reads comes into
its node once at most, so the rule pays if the grammar for the phrases inside does.

## Main results

* `expression_pays`, `primary_pays` — the rules for expressions.
-/

namespace TextDomain

namespace Parser

open Token (Lexed)

variable {g : Grammar} {q : Position} (hg : Settles q g) (l : Lexed)

/-! ## Names, starred and named expressions -/

variable (q) in
theorem comparisonOperator_free : Free l q comparisonOperator :=
  .orElse (.oneSign _) (.orElse (.word _) (.orElse ((Pays.word _).after (.word _))
    (.orElse ((Pays.word _).after (.word _)) (.word _))))

variable (q) in
theorem nameNode_pays : Pays l q 0 nameNode (Node.literalsAt q) :=
  (Pays.anyToken _).skip fun _ => .pure (Nat.le_refl _)

variable (q) in
theorem atom_pays (t : Token → Bool) : Pays l q 0 (atom t) (Node.literalsAt q) :=
  (Pays.anyToken _).skip fun _ => .pure (Nat.le_refl _)

include hg

theorem namedExpression_pays : Pays l q 0 (namedExpression g) (Node.literalsAt q) := by
  refine .branch (.nameThenSign _) (.compound ?_) (hg l _)
  refine (nameNode_pays q l).next fun name => (Pays.sign _).skip fun _ => ?_
  exact (hg l _).finish fun n => by simp

theorem starredOperand_pays : Pays l q 0 (starredOperand g) (Node.literalsAt q) :=
  .compound ((Pays.sign _).skip fun _ => (hg l _).finish fun n => by simp)

theorem starExpression_pays : Pays l q 0 (starExpression g) (Node.literalsAt q) :=
  .branch (.signNext _) (starredOperand_pays hg l) (hg l _)

theorem starNamedExpression_pays : Pays l q 0 (starNamedExpression g) (Node.literalsAt q) :=
  .branch (.signNext _) (starredOperand_pays hg l) (namedExpression_pays hg l)

theorem yieldExpression_pays : Pays l q 0 (yieldExpression g) (Node.literalsAt q) := by
  refine .compound ((Pays.word _).skip fun _ => .branch (.wordNext _) ?_ ?_)
  · exact (Pays.word _).skip fun _ => (hg l _).finish fun n => by simp
  · exact (hg l _).optional.finish fun n? => by simp

/-! ## Targets and comprehensions -/

theorem target_pays : Pays l q 0 (target g) (Node.literalsAt q) := by
  have hcheck : ∀ n, Pays l q (Node.literalsAt q n)
      (check n.isTarget >>= fun _ => pure n) (Node.literalsAt q) :=
    fun n => (Pays.check _).skip fun _ => .pure (Nat.le_refl _)
  refine .branch (.signNext _) (Pays.bind (.compound ?_) hcheck) ((hg l .primary).bind hcheck)
  exact (Pays.sign _).skip fun _ => (hg l .primary).finish fun n => by simp

theorem targets_pays : Pays l q 0 (targets g) (Node.literalsAt q) := (target_pays hg l).tupled

omit hg in
variable (q) in
theorem comprehensionNext_free : Free l q comprehensionNext :=
  (Pays.wordNext _).skip fun _ => (Pays.wordNext _).skip fun _ => .pure (Nat.le_refl _)

theorem comprehensionClause_pays :
    Pays l q 0 (comprehensionClause g) (Node.literalsAtOf q) := by
  refine (Pays.word _).optional.ignore.skip fun _ => (Pays.word _).skip fun _ => ?_
  refine (targets_pays hg l).next fun target => (Pays.word _).skip fun _ => ?_
  refine (hg l .disjunction).next fun source => ?_
  exact ((Pays.word _).after (hg l .disjunction)).many.finish fun conditions => by simp +arith

theorem comprehension_pays : Pays l q 0 (comprehension g) (Node.literalsAtOf q) :=
  (comprehensionClause_pays hg l).many₁.finish fun _ => by simp

/-! ## Displays -/

/-- Elements after the first, each behind a comma, and perhaps a last comma. -/
theorem moreElements_pays {α : Type} {f : List Node → Parser α} {k : Nat} {m : α → Nat}
    (hf : ∀ more, Pays l q (k + Node.literalsAtOf q more) (f more) m) :
    Pays l q k (many (sign "," *> starNamedExpression g) >>= fun more =>
      optional? (sign ",") >>= fun _ => f more) m := by
  refine ((Pays.sign _).after (starNamedExpression_pays hg l)).many.next fun more => ?_
  rw [Node.tally_literalsAt]
  exact (Pays.sign _).optional.ignore.skip fun _ => hf more

theorem parenthesized_pays : Pays l q 0 (parenthesized g) (Node.literalsAt q) := by
  refine Pays.here.skip fun start => (Pays.sign _).skip fun _ => ?_
  refine .branch (.signNext _) ((Pays.sign _).skip fun _ => .closeAt (by simp)) ?_
  refine .branch (.wordNext _) ?_ ?_
  · exact (yieldExpression_pays hg l).next fun n => (Pays.sign _).skip fun _ => .pure (by simp)
  refine (starNamedExpression_pays hg l).next fun first => ?_
  refine .branch (comprehensionNext_free q l) ?_ (.branch (.signNext _) ?_ ?_)
  · refine (Pays.check _).skip fun _ => (comprehension_pays hg l).next fun clauses => ?_
    exact (Pays.sign _).skip fun _ => .closeAt (by simp)
  · exact moreElements_pays hg l fun more => (Pays.sign _).skip fun _ => .closeAt (by simp)
  · exact (Pays.check _).skip fun _ => (Pays.sign _).skip fun _ => .pure (by simp)

theorem bracketed_pays : Pays l q 0 (bracketed g) (Node.literalsAt q) := by
  refine Pays.here.skip fun start => (Pays.sign _).skip fun _ => ?_
  refine .branch (.signNext _) ((Pays.sign _).skip fun _ => .closeAt (by simp)) ?_
  refine (starNamedExpression_pays hg l).next fun first => ?_
  refine .branch (comprehensionNext_free q l) ?_ ?_
  · refine (Pays.check _).skip fun _ => (comprehension_pays hg l).next fun clauses => ?_
    exact (Pays.sign _).skip fun _ => .closeAt (by simp)
  · exact moreElements_pays hg l fun more => (Pays.sign _).skip fun _ => .closeAt (by simp)

theorem doubleStarred_pays : Pays l q 0 (doubleStarred g) (Node.literalsAtOf q) :=
  (Pays.sign _).skip fun _ => (hg l _).finish fun n => by simp

theorem keyValue_pays : Pays l q 0 (keyValue g) (Node.literalsAtOf q) := by
  refine (hg l _).next fun key => (Pays.sign _).skip fun _ => ?_
  exact (hg l _).finish fun value => by simp

theorem dictionaryRest_pays (first : List Node) :
    Pays l q (Node.literalsAtOf q first) (dictionaryRest g first) (Node.literalsAtOf q) := by
  have hentry : Pays l q 0 (sign "," *> (doubleStarred g <|> keyValue g)) (Node.literalsAtOf q) :=
    (Pays.sign _).after ((doubleStarred_pays hg l).orElse (keyValue_pays hg l))
  refine hentry.many.next fun more => ?_
  exact (Pays.sign _).optional.ignore.skip fun _ => .pure (by simp)

theorem setRest_pays (first : Node) :
    Pays l q (Node.literalsAt q first) (setRest g first) (Node.literalsAtOf q) := by
  refine .branch (comprehensionNext_free q l) ?_ ?_
  · exact (Pays.check _).skip fun _ => (comprehension_pays hg l).finish fun clauses => by simp
  · exact moreElements_pays hg l fun more => .pure (by simp)

theorem bracedPlain_pays : Pays l q 0 (bracedPlain g) (Node.literalsAtOf q) := by
  refine (hg l _).next fun first => .branch (.signNext _) ?_ ?_
  · refine (Pays.sign _).skip fun _ => (hg l _).next fun value => ?_
    refine .branch (comprehensionNext_free q l) ?_ ?_
    · exact (comprehension_pays hg l).finish fun clauses => by simp +arith
    · exact (dictionaryRest_pays hg l [first, value]).of_le (by simp)
  · exact (setRest_pays hg l first).of_le (by simp)

theorem bracedParts_pays : Pays l q 0 (bracedParts g) (Node.literalsAtOf q) := by
  refine .branch (.signNext _) (.pure (by simp)) (.branch (.signNext _) ?_ ?_)
  · exact (doubleStarred_pays hg l).bind fun first => dictionaryRest_pays hg l first
  refine (Pays.signNext _).skip fun _ => (Pays.nameThenSign _).skip fun _ => ?_
  refine .ite ?_ (bracedPlain_pays hg l)
  exact (starNamedExpression_pays hg l).bind fun first => setRest_pays hg l first

theorem braced_pays : Pays l q 0 (braced g) (Node.literalsAt q) := by
  refine .compound ((Pays.sign _).skip fun _ => (bracedParts_pays hg l).next fun parts => ?_)
  exact (Pays.sign _).skip fun _ => .pure (by simp)

/-! ## Primaries -/

theorem atomic_pays : Pays l q 0 (atomic g) (Node.literalsAt q) := by
  refine .dispatch fun t => ?_
  cases t.kind with
  | name => exact .ite (nameNode_pays q l) (atom_pays q l _)
  | number => exact atom_pays q l _
  | string => exact stringLiteral_pays hg l
  | sign =>
    refine .ite (parenthesized_pays hg l) (.ite (bracketed_pays hg l) ?_)
    exact .ite (braced_pays hg l) (atom_pays q l _)
  | newline | indent | dedent | finish => exact .failure

theorem slice_pays : Pays l q 0 (slice g) (Node.literalsAt q) := by
  refine .branch (.nameThenSign _) (namedExpression_pays hg l) (.compound ?_)
  have hexpression := (hg l .expression).optional
  refine hexpression.next fun lower => .branch (.signNext _) ?_ ?_
  · refine (Pays.sign _).skip fun _ => hexpression.next fun upper => ?_
    refine .branch (.signNext _) ((Pays.sign _).skip fun _ => ?_) (.pure (by simp))
    exact hexpression.finish fun step => by simp +arith
  · exact (Pays.check _).skip fun _ => .pure (by simp)

theorem starredExpression_pays : Pays l q 0 (starredExpression g) (Node.literalsAt q) :=
  .compound ((Pays.sign _).skip fun _ => (hg l _).finish fun n => by simp)

theorem slices_pays : Pays l q 0 (slices g) (Node.literalsAtOf q) := by
  have hitem : Pays l q 0 _ (Node.literalsAt q) :=
    .branch (.signNext "*") (starredExpression_pays hg l) (slice_pays hg l)
  exact hitem.commaTerminated.finish fun r => by simp

/-! ## Arguments -/

/-- How many string literals of the arguments begin at a position. -/
def ArgumentList.literalsAt (q : Position) (args : ArgumentList) : Nat :=
  Node.literalsAtOf q args.positional + Node.literalsAtOf q args.keywords

theorem argument_pays (args : ArgumentList) :
    Pays l q (args.literalsAt q) (argument g args) (ArgumentList.literalsAt q) := by
  refine .branch (.signNext _) ?_ (.branch (.signNext _) ?_ (.branch (.nameThenSign _) ?_ ?_))
  · refine (Pays.check _).skip fun _ => (starredExpression_pays hg l).finish fun n => ?_
    simp +arith [ArgumentList.literalsAt]
  · refine (Pays.sign _).skip fun _ => (hg l _).finish fun n => ?_
    simp +arith [ArgumentList.literalsAt]
  · refine Pays.identifier.skip fun _ => (Pays.sign _).skip fun _ => ?_
    exact (hg l _).finish fun n => by simp +arith [ArgumentList.literalsAt]
  · refine (Pays.check _).skip fun _ => (namedExpression_pays hg l).finish fun n => ?_
    simp +arith [ArgumentList.literalsAt]

theorem argumentsAfter_pays (first : ArgumentList) :
    Pays l q (first.literalsAt q) (argumentsAfter g first) (ArgumentList.literalsAt q) := by
  have hmore := Pays.extend (fun args => (Pays.sign ",").after (argument_pays hg l args)) first
  exact hmore.bind fun args => (Pays.sign _).optional.ignore.skip fun _ => .pure (Nat.le_refl _)

theorem argumentsIn_pays (allowGenerator : Bool) :
    Pays l q 0 (argumentsIn g allowGenerator)
      fun r => Node.literalsAtOf q r.1 + Node.literalsAtOf q r.2 := by
  refine Pays.here.skip fun start => (Pays.sign _).skip fun _ => ?_
  refine .branch (.signNext _) ((Pays.sign _).skip fun _ => .pure (by simp)) ?_
  refine Pays.bind (argument_pays hg l {}) fun first => ?_
  refine (comprehensionNext_free q l).skip fun generator => ?_
  have hordered : Pays l q (first.literalsAt q) (argumentsAfter g first >>= fun args =>
      sign ")" >>= fun _ => pure (args.positional.reverse, args.keywords.reverse))
      fun r => Node.literalsAtOf q r.1 + Node.literalsAtOf q r.2 := by
    refine (argumentsAfter_pays hg l first).bind fun args => (Pays.sign _).skip fun _ => ?_
    exact .pure (by simp [ArgumentList.literalsAt])
  rcases hpositional : first.positional with _ | ⟨element, _ | ⟨second, more⟩⟩
  · exact hordered
  · cases generator with
    | false => exact hordered
    | true =>
      have helement : Node.literalsAt q element ≤ first.literalsAt q := by
        simp +arith [ArgumentList.literalsAt, hpositional]
      refine (Pays.check _).skip fun _ => (comprehension_pays hg l).next fun clauses => ?_
      have hclosed : Pays l q (first.literalsAt q + Node.literalsAtOf q clauses)
          (closeAt start .other (element :: clauses)) (Node.literalsAt q) :=
        .closeAt (Nat.add_le_add_right helement _)
      exact (Pays.sign _).skip fun _ => hclosed.bind fun n => .pure (by simp)
  · exact hordered

theorem suffix_pays (start : Position) (n : Node) :
    Pays l q (Node.literalsAt q n) (suffix g start n) (Node.literalsAt q) := by
  refine .dispatch fun t => .ite ?_ (.ite ?_ (.ite ?_ .failure))
  · exact (Pays.sign _).skip fun _ => Pays.identifier.skip fun _ => .closeAt (by simp)
  · refine (argumentsIn_pays hg l true).next fun (arguments, keywords) => ?_
    exact Pays.lastEnd.skip fun stop => .pure (by simp +arith)
  · refine (Pays.sign _).skip fun _ => (slices_pays hg l).next fun items => ?_
    exact (Pays.sign _).skip fun _ => .closeAt (by simp)

theorem primary_pays : Pays l q 0 (primary g) (Node.literalsAt q) :=
  Pays.here.skip fun start => (atomic_pays hg l).bind fun n =>
    .extend (fun n => suffix_pays hg l start n) n

/-! ## Arithmetic and logic -/

theorem awaited_pays : Pays l q 0 (awaited g) (Node.literalsAt q) := by
  refine .branch (.wordNext _) (.compound ((Pays.word _).skip fun _ => ?_)) (primary_pays hg l)
  exact (primary_pays hg l).finish fun n => by simp

theorem power_pays : Pays l q 0 (power g) (Node.literalsAt q) := by
  refine Pays.here.skip fun start => (awaited_pays hg l).next fun base => ?_
  refine .branch (.signNext _) ((Pays.sign _).skip fun _ => ?_) (.pure (by simp))
  exact (hg l _).next fun exponent => .closeAt (by simp)

theorem factor_pays : Pays l q 0 (factor g) (Node.literalsAt q) := by
  refine .branch (.nextIs _) (.compound ((Pays.oneSign _).skip fun _ => ?_)) (power_pays hg l)
  exact (hg l _).finish fun n => by simp

theorem bitwiseOr_pays : Pays l q 0 (bitwiseOr g) (Node.literalsAt q) := by
  have hterm : Pays l q 0 (term g) (Node.literalsAt q) := .chain (.oneSign _) (factor_pays hg l)
  have hsum : Pays l q 0 (sum g) (Node.literalsAt q) := .chain (.oneSign _) hterm
  have hshift : Pays l q 0 (shift g) (Node.literalsAt q) := .chain (.oneSign _) hsum
  have hand : Pays l q 0 (bitwiseAnd g) (Node.literalsAt q) := .chain (.sign _) hshift
  have hxor : Pays l q 0 (bitwiseXor g) (Node.literalsAt q) := .chain (.sign _) hand
  exact .chain (.sign _) hxor

theorem inversion_pays : Pays l q 0 (inversion g) (Node.literalsAt q) := by
  have hcomparison : Pays l q 0 (comparison g) (Node.literalsAt q) :=
    .chain (comparisonOperator_free q l) (bitwiseOr_pays hg l)
  refine .branch (.wordNext _) (.compound ((Pays.word _).skip fun _ => ?_)) hcomparison
  exact (hg l _).finish fun n => by simp

theorem disjunction_pays : Pays l q 0 (disjunction g) (Node.literalsAt q) := by
  have hconjunction : Pays l q 0 (conjunction g) (Node.literalsAt q) :=
    .chain (.word _) (inversion_pays hg l)
  exact .chain (.word _) hconjunction

/-! ## Parameters -/

theorem parameterType_pays (annotated starred : Bool) :
    Pays l q 0 (parameterType g annotated starred) (Node.literalsAtOf q) := by
  refine (Pays.signNext _).skip fun _ => .ite ((Pays.sign _).skip fun _ => ?_) (.pure (by simp))
  cases starred with
  | true => exact (starExpression_pays hg l).finish fun n => by simp
  | false => exact (hg l _).finish fun n => by simp

theorem parameter_pays (annotated : Bool) (st : ParameterState) :
    Pays l q 0 (parameter g annotated st) fun r => Node.literalsAtOf q r.1 := by
  have htype := parameterType_pays hg l annotated
  refine .branch (.signNext _) ?_ (.branch (.signNext _) ?_ (.branch (.signNext _) ?_ ?_))
  · exact (Pays.check _).skip fun _ => (Pays.sign _).skip fun _ => .pure (by simp)
  · refine (Pays.check _).skip fun _ => (Pays.sign _).skip fun _ => ?_
    exact Pays.identifier.skip fun _ => (htype false).finish fun _ => by simp
  · refine (Pays.check _).skip fun _ => (Pays.sign _).skip fun _ => ?_
    refine .branch (.signNext _) (.pure (by simp)) (Pays.identifier.skip fun _ => ?_)
    exact (htype true).finish fun _ => by simp
  · refine Pays.identifier.skip fun _ => (htype false).next fun type => ?_
    refine .branch (.signNext _) ?_ ((Pays.check _).skip fun _ => .pure (by simp))
    exact (Pays.sign _).skip fun _ => (hg l _).finish fun value => by simp

theorem parametersWithin_pays (annotated : Bool) (closing : String) (clock : List Token)
    (st : ParameterState) :
    Pays l q 0 (parametersWithin g annotated closing clock st) (Node.literalsAtOf q) := by
  induction clock generalizing st with
  | nil => exact .failure
  | cons _ clock ih =>
    refine .branch (.signNext _) ((Pays.check _).skip fun _ => .pure (by simp)) ?_
    refine (parameter_pays hg l annotated st).next fun (parts, st, final) => ?_
    refine .branch (.signNext _) ((Pays.sign _).skip fun _ => ?_)
      ((Pays.check _).skip fun _ => .pure (by simp))
    exact .ite (.pure (by simp)) ((ih st).finish fun more => by simp)

theorem parameters_pays (annotated : Bool) (closing : String) :
    Pays l q 0 (parameters g annotated closing) (Node.literalsAtOf q) :=
  fun s => parametersWithin_pays hg l annotated closing s.rest {} (s := s)

/-! ## Whole expressions -/

theorem lambda_pays : Pays l q 0 (lambda g) (Node.literalsAt q) := by
  refine .compound ((Pays.word _).skip fun _ => ?_)
  refine (parameters_pays hg l false ":").next fun defaults => (Pays.sign _).skip fun _ => ?_
  exact (hg l _).finish fun n => by simp

theorem expression_pays : Pays l q 0 (expression g) (Node.literalsAt q) := by
  refine .branch (.wordNext _) (lambda_pays hg l) ?_
  refine Pays.here.skip fun start => (disjunction_pays hg l).next fun value => ?_
  refine .branch (.wordNext _) ((Pays.word _).skip fun _ => ?_) (.pure (by simp))
  refine (disjunction_pays hg l).next fun condition => (Pays.word _).skip fun _ => ?_
  exact (hg l _).next fun otherwise => .closeAt (by simp +arith)

theorem starExpressions_pays : Pays l q 0 (starExpressions g) (Node.literalsAt q) :=
  (starExpression_pays hg l).tupled

end Parser

end TextDomain
