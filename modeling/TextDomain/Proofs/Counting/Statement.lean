import TextDomain.Proofs.Counting.Expression

/-!
# What patterns and statements owe to their tokens

The rules of `Source.Grammar.Pattern` and `Source.Grammar.Statement`, and tied together the
grammar of any depth.

## Main results

* `settles_grammar` — the grammar of every depth pays for every phrase.
* `file_pays` — so does a whole file.
-/

namespace TextDomain

namespace Parser

open Token (Lexed)

variable {g : Grammar} {q : Position} (hg : Settles q g) (l : Lexed)

/-! ## Literals and names in patterns -/

variable (q) in
theorem signedNumber_pays : Pays l q 0 signedNumber (Node.literalsAt q) := by
  refine .compound ?_
  refine (Pays.sign _).optional.ignore.skip fun _ => (Pays.ofKind _).skip fun real => ?_
  refine (Pays.nextIs _).skip fun _ => .ite ?_ (.pure (by simp))
  refine (Pays.check _).skip fun _ => (Pays.oneSign _).skip fun _ => ?_
  refine (Pays.ofKind _).skip fun imaginary => ?_
  exact (Pays.check _).finish fun _ => by simp

variable (q) in
theorem captureName_free : Free l q captureName := by
  refine (Pays.anyToken _).skip fun _ => ?_
  exact (Pays.nextIs _).skip fun _ => .check _

variable (q) in
theorem dottedName_free : Free l q dottedName :=
  Pays.identifier.skip fun _ =>
    ((Pays.sign _).after .identifier).many.ignore.finish fun _ => Nat.zero_le _

include hg

theorem literalPattern_pays : Pays l q 0 (literalPattern g) (Node.literalsAt q) := by
  refine .dispatch fun t => ?_
  cases t.kind with
  | string => exact stringLiteral_pays hg l
  | number => exact signedNumber_pays q l
  | sign => exact (Pays.check _).after (signedNumber_pays q l)
  | name => exact atom_pays q l _
  | newline | indent | dedent | finish => exact .failure

/-! ## Classes and mappings -/

theorem classArgument_pays (keywords : Bool) :
    Pays l q 0 (classArgument g keywords) fun r => Node.literalsAtOf q r.1 := by
  refine .branch (.nameThenSign _) ?_ ?_
  · refine Pays.identifier.skip fun _ => (Pays.sign _).skip fun _ => ?_
    exact (hg l .pattern).finish fun n => by simp
  · exact (Pays.check _).skip fun _ => (hg l .pattern).finish fun n => by simp

theorem classArguments_pays : Pays l q 0 (classArguments g) (Node.literalsAtOf q) := by
  refine (Pays.sign _).skip fun _ => .branch (.signNext _) ?_ ?_
  · exact (Pays.sign _).finish fun _ => by simp
  refine (classArgument_pays hg l false).bind fun first => ?_
  refine Pays.bind (m := fun r => Node.literalsAtOf q r.1) (.extend ?_ first) ?_
  · intro (nodes, keywords)
    refine (Pays.sign _).skip fun _ => (classArgument_pays hg l keywords).finish ?_
    exact fun (more, _) => by simp
  · intro (nodes, _)
    refine (Pays.sign _).optional.ignore.skip fun _ => ?_
    exact (Pays.sign _).finish fun _ => by simp

theorem namedPattern_pays : Pays l q 0 (namedPattern g) (Node.literalsAt q) := by
  refine .compound (.branch (.nextIs _) ?_ ?_)
  · exact (Pays.word _).finish fun _ => by simp
  refine (dottedName_free q l).skip fun _ => ?_
  refine .branch (.signNext _) (classArguments_pays hg l) ?_
  exact (Pays.nextIs _).skip fun _ => (Pays.check _).finish fun _ => by simp

theorem mappingKey_pays : Pays l q 0 (mappingKey g) (Node.literalsAtOf q) := by
  refine .branch (.nextIs _) ?_ ?_
  · exact (dottedName_free q l).skip fun _ => (Pays.check _).finish fun _ => by simp
  · exact (literalPattern_pays hg l).finish fun n => by simp

theorem mappingEntry_pays : Pays l q 0 (mappingEntry g) (Node.literalsAtOf q) := by
  refine (mappingKey_pays hg l).next fun key => (Pays.sign _).skip fun _ => ?_
  exact (hg l .pattern).finish fun n => by simp

theorem mappingEntries_pays : Pays l q 0 (mappingEntries g) (Node.literalsAtOf q) := by
  refine (mappingEntry_pays hg l).commaSeparated.optional.next fun entries => ?_
  cases entries with
  | none => exact (Pays.sign _).skip fun _ => (captureName_free q l).finish fun _ => by simp
  | some entries =>
    have hrest : Free l q (sign "," *> sign "**" *> captureName) :=
      ((Pays.sign _).after (.sign _)).after (captureName_free q l)
    exact hrest.optional.ignore.skip fun _ => .pure (by simp)

theorem mappingPattern_pays : Pays l q 0 (mappingPattern g) (Node.literalsAt q) := by
  refine .compound ((Pays.sign _).skip fun _ => ?_)
  refine .branch (.signNext _) ((Pays.sign _).finish fun _ => by simp) ?_
  refine (mappingEntries_pays hg l).next fun entries => ?_
  refine (Pays.sign _).optional.ignore.skip fun _ => ?_
  exact (Pays.sign _).finish fun _ => by simp

/-! ## Sequences -/

theorem sequenceElement_pays :
    Pays l q 0 (sequenceElement g) fun r => Node.literalsAt q r.1 := by
  refine .branch (.signNext _) ?_ ((hg l .pattern).finish fun _ => by simp)
  refine Pays.bind (.compound (q := q) ?_) fun n => .pure (Nat.le_refl _)
  refine (Pays.sign _).skip fun _ => (Pays.nextIs _).skip fun _ => .ite ?_ ?_
  · exact (Pays.word _).finish fun _ => by simp
  · exact (captureName_free q l).finish fun _ => by simp

omit hg in
@[simp] theorem tally_fst {α : Type} (rs : List (Node × α)) :
    tally (fun r => Node.literalsAt q r.1) rs = Node.literalsAtOf q (rs.map Prod.fst) := by
  induction rs with
  | nil => rfl
  | cons r rs ih => simp [ih]

theorem openSequence_pays (first : Node) :
    Pays l q (Node.literalsAt q first) (openSequence g first) (Node.literalsAtOf q) := by
  refine (Pays.sign _).skip fun _ => ?_
  refine (sequenceElement_pays hg l).commaTerminated.optional.finish fun more => ?_
  cases more with
  | none => simp
  | some r => simp

theorem groupPattern_pays : Pays l q 0 (groupPattern g) (Node.literalsAt q) := by
  refine Pays.here.skip fun start => (Pays.sign _).skip fun _ => ?_
  refine .branch (.signNext _) ((Pays.sign _).skip fun _ => .closeAt (by simp)) ?_
  refine (sequenceElement_pays hg l).bind fun (first, starred) => ?_
  refine .branch (.signNext _) ?_ ?_
  · refine (openSequence_pays hg l first).bind fun parts => ?_
    exact (Pays.sign _).skip fun _ => .closeAt (Nat.le_refl _)
  · exact (Pays.check _).skip fun _ => (Pays.sign _).finish fun _ => by simp

theorem listPattern_pays : Pays l q 0 (listPattern g) (Node.literalsAt q) := by
  refine .compound ((Pays.sign _).skip fun _ => ?_)
  refine .branch (.signNext _) ((Pays.sign _).finish fun _ => by simp) ?_
  refine (sequenceElement_pays hg l).commaTerminated.next fun (elements, _) => ?_
  exact (Pays.sign _).finish fun _ => by simp

/-! ## Whole patterns -/

theorem closedPattern_pays : Pays l q 0 (closedPattern g) (Node.literalsAt q) :=
  .dispatch fun _ => .ite (namedPattern_pays hg l) (.ite (groupPattern_pays hg l)
    (.ite (listPattern_pays hg l) (.ite (mappingPattern_pays hg l) (literalPattern_pays hg l))))

theorem pattern_pays : Pays l q 0 (pattern g) (Node.literalsAt q) := by
  refine Pays.here.skip fun start => ?_
  refine (Pays.chain (.sign _) (closedPattern_pays hg l)).bind fun n => ?_
  refine .branch (.wordNext _) ((Pays.word _).skip fun _ => ?_) (.pure (Nat.le_refl _))
  exact (captureName_free q l).skip fun _ => .closeAt (by simp)

theorem patterns_pays : Pays l q 0 (patterns g) (Node.literalsAt q) := by
  refine Pays.here.skip fun start => ?_
  refine (sequenceElement_pays hg l).bind fun (first, starred) => ?_
  refine .branch (.signNext _) ?_ ((Pays.check _).finish fun _ => by simp)
  exact (openSequence_pays hg l first).bind fun parts => .closeAt (Nat.le_refl _)

/-! ## Simple statements -/

theorem assignedValue_pays : Pays l q 0 (assignedValue g) (Node.literalsAt q) :=
  .branch (.wordNext _) (yieldExpression_pays hg l) (starExpressions_pays hg l)

theorem assignMore_pays (parts : Node × List Node) :
    Pays l q (Node.literalsAtOf q (parts.1 :: parts.2)) (assignMore g parts)
      fun r => Node.literalsAtOf q (r.1 :: r.2) := by
  obtain ⟨last, before⟩ := parts
  refine (Pays.sign _).skip fun _ => (Pays.check _).skip fun _ => ?_
  exact (assignedValue_pays hg l).finish fun n => by simp +arith

theorem expressionStatement_pays : Pays l q 0 (expressionStatement g) (Node.literalsAt q) := by
  have hvalue := assignedValue_pays hg l
  refine .compound (.branch (.wordNext _) ?_ ?_)
  · exact (yieldExpression_pays hg l).finish fun n => by simp
  refine (starExpressions_pays hg l).next fun first => ?_
  refine .branch (.signNext _) ?_ (.branch (.signNext _) ?_ ?_)
  · have hparts : Pays l q (Node.literalsAtOf q [first]) (extend (assignMore g) (first, []))
        fun r => Node.literalsAtOf q (r.1 :: r.2) := .extend (assignMore_pays hg l) (first, [])
    refine Pays.bind (hparts.of_le (by simp)) fun (last, before) => ?_
    exact (Pays.check _).finish fun _ => by simp +arith
  · refine (Pays.check _).skip fun _ => (Pays.sign _).skip fun _ => (hg l _).next fun type => ?_
    refine .branch (.signNext _) ((Pays.sign _).skip fun _ => ?_) (.pure (by simp))
    exact hvalue.finish fun value => by simp +arith
  refine .branch (.nextIs _) ?_ (.pure (by simp))
  refine (Pays.check _).skip fun _ => (Pays.oneSign _).skip fun _ => ?_
  exact hvalue.finish fun value => by simp

omit hg in
theorem keywordStatement_pays {w : String} {p : Parser (List Node)}
    (hp : Pays l q 0 p (Node.literalsAtOf q)) :
    Pays l q 0 (keywordStatement w p) (Node.literalsAt q) :=
  .compound ((Pays.word _).skip fun _ => hp)

theorem returned_pays : Pays l q 0 (returned g) (Node.literalsAtOf q) :=
  (starExpressions_pays hg l).optional.finish fun n? => by simp

theorem raised_pays : Pays l q 0 (raised g) (Node.literalsAtOf q) := by
  refine (hg l _).optional.next fun n? => ?_
  cases n? with
  | none => exact .pure (by simp)
  | some n =>
    refine .branch (.wordNext _) ((Pays.word _).skip fun _ => ?_) (.pure (by simp))
    exact (hg l _).finish fun cause => by simp

theorem deleted_pays : Pays l q 0 (deleted g) (Node.literalsAtOf q) :=
  (hg l .primary).commaTerminated.next fun (_, _) => (Pays.check _).finish fun _ => by simp

theorem asserted_pays : Pays l q 0 (asserted g) (Node.literalsAtOf q) := by
  refine (hg l _).next fun condition => ?_
  refine .branch (.signNext _) ((Pays.sign _).skip fun _ => ?_) (.pure (by simp))
  exact (hg l _).finish fun message => by simp

omit hg in
variable (q) in
theorem nameList_pays : Pays l q 0 nameList (Node.literalsAtOf q) :=
  (Pays.commaSeparated Pays.identifier).ignore.finish fun _ => by simp

omit hg in
variable (q) in
theorem modulePath_free : Free l q modulePath :=
  (dottedName_free q l).finish fun _ => Nat.zero_le _

omit hg in
variable (q) in
theorem importedAs_free : Free l q importedAs := by
  refine .branch (.wordNext _) ((Pays.word _).skip fun _ => ?_) (.pure (Nat.zero_le _))
  exact Pays.identifier.finish fun _ => Nat.zero_le _

omit hg in
variable (q) in
theorem importedModules_pays : Pays l q 0 importedModules (Node.literalsAtOf q) :=
  ((modulePath_free q l).after (importedAs_free q l)).commaSeparated.ignore.finish
    fun _ => by simp

omit hg in
variable (q) in
theorem importedNames_free : Free l q importedNames := by
  have hname : Free l q (identifier *> importedAs) := Pays.identifier.after (importedAs_free q l)
  refine .branch (.signNext _) (.sign _) (.branch (.signNext _) ?_ ?_)
  · exact (Pays.sign _).skip fun _ => hname.commaTerminated.ignore.skip fun _ => .sign _
  · exact hname.commaSeparated.ignore.finish fun _ => Nat.zero_le _

omit hg in
variable (q) in
theorem importedFrom_pays : Pays l q 0 importedFrom (Node.literalsAtOf q) := by
  have hnames : Pays l q 0 (do
      word "import"
      importedNames
      return []) (Node.literalsAtOf q) :=
    (Pays.word _).skip fun _ => (importedNames_free q l).finish fun _ => by simp
  refine (Pays.oneSign _).many.ignore.skip fun dots => .ite ?_ ?_
  · exact (modulePath_free q l).skip fun _ => hnames
  · exact (modulePath_free q l).optional.ignore.skip fun _ => hnames

omit hg in
variable (q) in
theorem nothing_pays : Pays l q 0 nothing (Node.literalsAtOf q) := .pure (by simp)

theorem simpleStatement_pays : Pays l q 0 (simpleStatement g) (Node.literalsAt q) := by
  have hnothing : ∀ w, Pays l q 0 (keywordStatement w nothing) (Node.literalsAt q) :=
    fun _ => keywordStatement_pays l (nothing_pays q l)
  have hnames : ∀ w, Pays l q 0 (keywordStatement w nameList) (Node.literalsAt q) :=
    fun _ => keywordStatement_pays l (nameList_pays q l)
  refine .dispatch fun t => ?_
  refine .ite (keywordStatement_pays l (returned_pays hg l)) ?_
  refine .ite (keywordStatement_pays l (importedModules_pays q l)) ?_
  refine .ite (keywordStatement_pays l (importedFrom_pays q l)) ?_
  refine .ite (keywordStatement_pays l (raised_pays hg l)) ?_
  refine .ite (hnothing _) ?_
  refine .ite (keywordStatement_pays l (deleted_pays hg l)) ?_
  refine .ite (keywordStatement_pays l (asserted_pays hg l)) ?_
  refine .ite (hnothing _) (.ite (hnothing _) (.ite (hnames _) (.ite (hnames _) ?_)))
  exact expressionStatement_pays hg l

theorem simpleStatements_pays : Pays l q 0 (simpleStatements g) (Node.literalsAtOf q) := by
  refine (simpleStatement_pays hg l).next fun first => ?_
  refine ((Pays.sign _).after (simpleStatement_pays hg l)).many.next fun more => ?_
  refine (Pays.sign _).optional.ignore.skip fun _ => (Pays.ofKind _).finish fun _ => ?_
  simp

/-! ## Compound statements -/

theorem body_pays : Pays l q 0 (body g) (Node.literalsAt q) := (Pays.sign _).skip fun _ => hg l _

/-- A body at the end of the parts of a statement. -/
theorem withBody_pays (parts : List Node) :
    Pays l q (Node.literalsAtOf q parts) (body g >>= fun n => pure (parts ++ [n]))
      (Node.literalsAtOf q) :=
  (body_pays hg l).finish fun n => by simp

theorem elseBlock_pays : Pays l q 0 (elseBlock g) (Node.literalsAtOf q) :=
  .branch (.wordNext _) ((Pays.word _).skip fun _ => withBody_pays hg l []) (.pure (by simp))

theorem guarded_pays : Pays l q 0 (guarded g) (Node.literalsAtOf q) :=
  (namedExpression_pays hg l).next fun condition =>
    (body_pays hg l).finish fun n => by simp

theorem ifParts_pays : Pays l q 0 (ifParts g) (Node.literalsAtOf q) := by
  refine (guarded_pays hg l).next fun first => ?_
  refine ((Pays.word _).after (guarded_pays hg l)).many.next fun more => ?_
  exact (elseBlock_pays hg l).finish fun otherwise => by simp +arith

theorem whileParts_pays : Pays l q 0 (whileParts g) (Node.literalsAtOf q) :=
  (guarded_pays hg l).next fun _ => (elseBlock_pays hg l).finish fun _ => by simp

theorem forParts_pays : Pays l q 0 (forParts g) (Node.literalsAtOf q) := by
  refine (targets_pays hg l).next fun target => (Pays.word _).skip fun _ => ?_
  refine (starExpressions_pays hg l).next fun source => (body_pays hg l).next fun loop => ?_
  exact (elseBlock_pays hg l).finish fun otherwise => by simp +arith

theorem withItem_pays : Pays l q 0 (withItem g) (Node.literalsAtOf q) := by
  refine (hg l _).next fun context => ?_
  refine .branch (.wordNext _) ((Pays.word _).skip fun _ => ?_) (.pure (by simp))
  refine (target_pays hg l).next fun t => (Pays.nextIs _).skip fun _ => ?_
  exact (Pays.check _).finish fun _ => by simp

theorem withItems_pays : Pays l q 0 (withItems g) (Node.literalsAtOf q) := by
  have hitem := withItem_pays hg l
  refine .orElse ?_ (hitem.commaSeparated.finish fun _ => by simp)
  refine (Pays.sign _).skip fun _ => hitem.commaTerminated.next fun (items, _) => ?_
  refine (Pays.sign _).skip fun _ => (Pays.signNext _).skip fun _ => ?_
  exact (Pays.check _).finish fun _ => by simp

theorem withParts_pays : Pays l q 0 (withParts g) (Node.literalsAtOf q) :=
  (withItems_pays hg l).bind fun _ => withBody_pays hg l _

theorem handledException_pays : Pays l q 0 (handledException g) (Node.literalsAtOf q) := by
  refine (hg l _).next fun n => ?_
  refine (Pays.wordNext _).skip fun _ => .ite ?_ (.pure (by simp))
  exact (Pays.word _).skip fun _ => Pays.identifier.finish fun _ => by simp

theorem handler_pays (starred : Bool) : Pays l q 0 (handler g starred) (Node.literalsAtOf q) := by
  have hexception := handledException_pays hg l
  refine (Pays.word _).skip fun _ => (Pays.signNext _).skip fun _ => .ite ?_ (.ite ?_ ?_)
  · exact ((Pays.sign _).after hexception).bind fun _ => withBody_pays hg l _
  · exact withBody_pays hg l []
  · exact hexception.bind fun _ => withBody_pays hg l _

theorem finallyBlock_pays : Pays l q 0 (finallyBlock g) (Node.literalsAtOf q) :=
  (Pays.word _).skip fun _ => withBody_pays hg l []

theorem tryParts_pays : Pays l q 0 (tryParts g) (Node.literalsAtOf q) := by
  refine (body_pays hg l).next fun first => ?_
  have hrest : ∀ handlers : List (List Node),
      Pays l q (Node.literalsAt q first + tally (Node.literalsAtOf q) handlers) (do
        if handlers.isEmpty then return first :: (← finallyBlock g)
        else
          let otherwise ← elseBlock g
          let final ← optional? (finallyBlock g)
          return first :: handlers.flatten ++ otherwise ++ final.getD [])
        (Node.literalsAtOf q) := by
    intro handlers
    refine .ite ((finallyBlock_pays hg l).finish fun final => by simp +arith) ?_
    refine (elseBlock_pays hg l).next fun otherwise => ?_
    refine (finallyBlock_pays hg l).optional.finish fun final => ?_
    cases final with
    | none => simp +arith
    | some ns => simp +arith
  refine (handler_pays hg l true).many.next fun handlers => .ite ?_ ?_
  · exact (handler_pays hg l false).many.next fun handlers =>
      (hrest handlers).of_le (by simp +arith)
  · exact (hrest handlers).of_le (by simp)

theorem functionParts_pays : Pays l q 0 (functionParts g) (Node.literalsAtOf q) := by
  refine Pays.identifier.skip fun _ => (Pays.sign _).skip fun _ => ?_
  refine (parameters_pays hg l true ")").next fun params => ?_
  refine (Pays.sign _).skip fun _ => (Pays.signNext _).skip fun _ => .ite ?_ ?_
  · refine Pays.next (m := fun n? => Node.literalsAtOf q n?.toList) ?_ fun n? => ?_
    · exact (Pays.sign _).after ((hg l _).map fun n => by simp)
    · exact (withBody_pays hg l _).of_le (by simp)
  · exact (withBody_pays hg l _).of_le (by simp)

theorem classParts_pays : Pays l q 0 (classParts g) (Node.literalsAtOf q) := by
  refine Pays.identifier.skip fun _ => (Pays.signNext _).skip fun _ => .ite ?_ ?_
  · refine (argumentsIn_pays hg l false).bind fun (bases, keywords) => ?_
    exact (withBody_pays hg l _).of_le (by simp)
  · exact withBody_pays hg l []

theorem asyncStatement_pays : Pays l q 0 (asyncStatement g) (Node.literalsAt q) := by
  refine .compound ((Pays.word _).skip fun _ => ?_)
  refine Pays.finish (m := Node.literalsAt q) ?_ fun n => by simp
  exact (keywordStatement_pays l (functionParts_pays hg l)).orElse
    ((keywordStatement_pays l (withParts_pays hg l)).orElse
      (keywordStatement_pays l (forParts_pays hg l)))

theorem decorator_pays : Pays l q 0 (decorator g) (Node.literalsAt q) := by
  refine (Pays.sign _).skip fun _ => (namedExpression_pays hg l).next fun n => ?_
  exact (Pays.ofKind _).finish fun _ => by simp

theorem decorated_pays : Pays l q 0 (decorated g) (Node.literalsAt q) := by
  have hfunction := fun w => keywordStatement_pays l (w := w) (functionParts_pays hg l)
  refine .compound ((decorator_pays hg l).many₁.next fun decorators => ?_)
  refine (Pays.wordNext _).skip fun _ => (Pays.wordNext _).skip fun _ => .ite ?_ (.ite ?_ ?_)
  · exact (keywordStatement_pays l (classParts_pays hg l)).finish fun n => by simp
  · refine (keywordStatement_pays l ?_).finish fun n => by simp
    exact (hfunction "def").finish fun n => by simp
  · exact (hfunction "def").finish fun n => by simp

/-! ## Match statements -/

theorem matchSubject_pays : Pays l q 0 (matchSubject g) (Node.literalsAt q) := by
  refine (Pays.signNext _).skip fun _ => (starNamedExpression_pays hg l).tupled.next fun n => ?_
  exact (Pays.check _).finish fun _ => by simp

theorem caseClause_pays : Pays l q 0 (caseClause g) (Node.literalsAtOf q) := by
  refine (Pays.word _).skip fun _ => (patterns_pays hg l).next fun p => ?_
  have hrest : ∀ n? : Option Node,
      Pays l q (Node.literalsAt q p + Node.literalsAtOf q n?.toList)
        (body g >>= fun n => pure (p :: n?.toList ++ [n])) (Node.literalsAtOf q) :=
    fun n? => withBody_pays hg l (p :: n?.toList)
  refine (Pays.wordNext _).skip fun _ => .ite ?_ ((hrest none).of_le (by simp))
  refine Pays.next (m := fun n? => Node.literalsAtOf q n?.toList) ?_
    fun n? => (hrest n?).of_le (by simp)
  exact (Pays.word _).after ((namedExpression_pays hg l).map fun n => by simp)

theorem matchStatement_pays : Pays l q 0 (matchStatement g) (Node.literalsAt q) := by
  refine keywordStatement_pays l ((matchSubject_pays hg l).next fun subject => ?_)
  refine (Pays.sign _).skip fun _ => (Pays.ofKind _).skip fun _ => (Pays.ofKind _).skip fun _ => ?_
  refine (caseClause_pays hg l).many₁.next fun cases => ?_
  exact (Pays.ofKind _).finish fun _ => by simp

/-! ## Blocks -/

theorem statement_pays : Pays l q 0 (statement g) (Node.literalsAtOf q) := by
  have hone : ∀ {p : Parser Node}, Pays l q 0 p (Node.literalsAt q) →
      Pays l q 0 (p >>= fun n => pure [n]) (Node.literalsAtOf q) :=
    fun hp => hp.finish fun n => by simp
  have hkeyword : ∀ {w : String} {p : Parser (List Node)},
      Pays l q 0 p (Node.literalsAtOf q) →
      Pays l q 0 (keywordStatement w p >>= fun n => pure [n]) (Node.literalsAtOf q) :=
    fun hp => hone (keywordStatement_pays l hp)
  refine .dispatch fun t => ?_
  refine .ite (hkeyword (ifParts_pays hg l)) (.ite (hkeyword (whileParts_pays hg l)) ?_)
  refine .ite (hkeyword (forParts_pays hg l)) (.ite (hkeyword (withParts_pays hg l)) ?_)
  refine .ite (hkeyword (tryParts_pays hg l)) (.ite (hkeyword (functionParts_pays hg l)) ?_)
  refine .ite (hkeyword (classParts_pays hg l)) (.ite (hone (asyncStatement_pays hg l)) ?_)
  refine .ite (hone (decorated_pays hg l)) (.ite ?_ (simpleStatements_pays hg l))
  refine (matchStatement_pays hg l).optional.next fun n? => ?_
  cases n? with
  | none => exact (simpleStatements_pays hg l).of_le (Nat.zero_le _)
  | some n => exact .pure (by simp)

theorem statements_pays : Pays l q 0 (statements g) (Node.literalsAtOf q) :=
  (statement_pays hg l).many.finish fun _ => by simp

theorem block_pays : Pays l q 0 (block g) (Node.literalsAt q) := by
  refine .compound (.branch (.nextIs _) ?_ (simpleStatements_pays hg l))
  refine (Pays.ofKind _).skip fun _ => (Pays.ofKind _).skip fun _ => ?_
  refine (statement_pays hg l).next fun first => (statements_pays hg l).next fun more => ?_
  exact (Pays.ofKind _).finish fun _ => by simp

/-! ## Grammars -/

omit hg in
/-- The grammar of every depth pays for every phrase. -/
theorem settles_grammar (q : Position) (depth : Nat) : Settles q (grammar depth) := by
  induction depth with
  | zero => exact fun _ _ => .failure
  | succ depth ih =>
    intro l goal
    cases goal with
    | expression => exact expression_pays ih l
    | disjunction => exact disjunction_pays ih l
    | inversion => exact inversion_pays ih l
    | bitwiseOr => exact bitwiseOr_pays ih l
    | factor => exact factor_pays ih l
    | primary => exact primary_pays ih l
    | starExpressions => exact starExpressions_pays ih l
    | pattern => exact pattern_pays ih l
    | block => exact block_pays ih l

omit hg in
theorem file_pays (q : Position) (depth : Nat) :
    Pays l q 0 (file depth) (Node.literalsAt q) := by
  refine .compound ((statements_pays (settles_grammar q depth) l).next fun nodes => ?_)
  exact (Pays.ofKind _).finish fun _ => by simp

end Parser

end TextDomain
