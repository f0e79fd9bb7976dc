import TextDomain.Proofs.Grammar.Pattern

/-!
# Where the calls of statements lie

The rules of `Source.Grammar.Statement` and, tied together, the grammar of any
depth. Statements end with layout, which stands at no character, so nothing is
known of where they end; no statement is an argument either.

## Main results

* `statement_reads`, `block_reads` — the rules for statements and blocks.
* `faithful_grammar` — the grammar of every depth gives nodes that lie where they
  were read.
* `file_reads` — all calls of a file lie in its text.
-/

namespace TextDomain.Parser

open Token (Lexed)
open TokenStream (Advances Follows Anywhere)

variable {g : Grammar} (hg : Faithful g) (l : Lexed)

include hg

/-! ## Simple statements -/

theorem assignedValue_reads : Reads l (Follows l) (assignedValue g) l.Holds :=
  (Reads.wordNext _).branch (yieldExpression_phrase hg l).reads.lift (starExpressions_reads hg l)

/-- One more value: the one before it is among the targets then. -/
theorem assignMore_reads {parts : Node × List Node} (hparts : ∀ n ∈ parts.1 :: parts.2, l.Holds n) :
    Reads l (Follows l) (assignMore g parts) fun r => ∀ n ∈ r.1 :: r.2, l.Holds n := by
  obtain ⟨last, before⟩ := parts
  refine (Reads.sign _).bind fun _ _ => (Reads.check _).bind fun _ _ => ?_
  exact (assignedValue_reads hg l).finish fun n hn => List.forall_mem_cons.2 ⟨hn, hparts⟩

theorem expressionStatement_reads : Reads l (Follows l) (expressionStatement g) l.Holds := by
  have hvalue := assignedValue_reads hg l
  refine .compound ((Reads.wordNext _).branch ?_ ?_)
  · exact (yieldExpression_phrase hg l).reads.finish fun n hn => by simpa using hn
  refine (starExpressions_reads hg l).bind fun first hfirst => ?_
  refine (Reads.signNext _).branch ?_ ?_
  · refine Reads.bind (R := Follows l) (P := fun r => ∀ n ∈ r.1 :: r.2, l.Holds n)
      (.extend (fun parts hparts => assignMore_reads hg l hparts) (by simpa using hfirst)) ?_
    intro (last, before) hparts
    refine (Reads.check _).finish fun _ _ n hn => hparts n ?_
    simpa [or_comm] using hn
  refine (Reads.signNext _).branch ?_ ?_
  · refine (Reads.check _).bind fun _ _ => (Reads.sign _).bind fun _ _ => ?_
    refine (hg.expression l).reads.bind fun type htype => ?_
    refine (Reads.signNext _).branch ((Reads.sign _).bind fun _ _ => ?_) (.pure ?_)
    · exact hvalue.finish fun value hvalue => by simp [hfirst, htype, hvalue]
    · simp [hfirst, htype]
  refine (Reads.nextIs _).branch ?_ (.pure (by simpa using hfirst))
  refine (Reads.check _).bind fun _ _ => (Reads.oneSign _).bind fun _ _ => ?_
  exact hvalue.finish fun value hvalue => by simp [hfirst, hvalue]

omit hg in
theorem keywordStatement_reads {w : String} {p : Parser (List Node)}
    (hp : Reads l Anywhere p fun ns => ∀ n ∈ ns, l.Holds n) :
    Reads l Anywhere (keywordStatement w p) l.Holds :=
  .compound ((Reads.word _).bind fun _ _ => hp)

theorem returned_reads : Reads l Anywhere (returned g) fun ns => ∀ n ∈ ns, l.Holds n :=
  (starExpressions_reads hg l).optional.finish fun n? hn => by simpa using hn

theorem raised_reads : Reads l Anywhere (raised g) fun ns => ∀ n ∈ ns, l.Holds n := by
  refine (hg.expression l).reads.optional.bind fun n? hn => ?_
  cases n? with
  | none => exact .pure (by simp)
  | some n =>
    have hn := hn n rfl
    refine (Reads.wordNext _).branch ((Reads.word _).bind fun _ _ => ?_) (.pure (by simpa using hn))
    exact (hg.expression l).reads.finish fun cause hcause => by simp [hn, hcause]

theorem deleted_reads : Reads l Anywhere (deleted g) fun ns => ∀ n ∈ ns, l.Holds n :=
  (hg.operand l .primary nofun).commaTerminated.bind fun (_, _) hnodes =>
    (Reads.check _).finish fun _ _ => hnodes

theorem asserted_reads : Reads l Anywhere (asserted g) fun ns => ∀ n ∈ ns, l.Holds n := by
  refine (hg.expression l).reads.bind fun condition hcondition => ?_
  refine (Reads.signNext _).branch ((Reads.sign _).bind fun _ _ => ?_) (.pure ?_)
  · exact (hg.expression l).reads.finish fun message hmessage => by simp [hcondition, hmessage]
  · simpa using hcondition

omit hg in
theorem nameList_reads : Reads l Anywhere nameList fun ns => ∀ n ∈ ns, l.Holds n :=
  (Reads.commaSeparated Reads.identifier.lift).finish fun _ _ => by simp

omit hg in
theorem modulePath_reads : Reads l (Follows l) modulePath fun _ => True :=
  (dottedName_reads l).finish fun _ _ => trivial

omit hg in
theorem importedAs_reads : Reads l (Follows l) importedAs fun _ => True := by
  refine (Reads.wordNext _).branch ((Reads.word _).bind fun _ _ => ?_) (.pure trivial)
  exact Reads.identifier.finish fun _ _ => trivial

omit hg in
theorem importedModules_reads : Reads l Anywhere importedModules fun ns => ∀ n ∈ ns, l.Holds n :=
  ((modulePath_reads l).after (importedAs_reads l)).commaSeparated.finish fun _ _ => by simp

omit hg in
theorem importedNames_reads : Reads l (Follows l) importedNames fun _ => True := by
  have hname : Reads l (Follows l) (identifier *> importedAs) fun _ => True :=
    Reads.identifier.after (importedAs_reads l)
  refine (Reads.signNext _).branch (Reads.sign _).lift ((Reads.signNext _).branch ?_ ?_)
  · refine (Reads.sign _).bind fun _ _ => hname.commaTerminated.bind fun _ _ => ?_
    exact (Reads.sign _).lift
  · exact hname.commaSeparated.finish fun _ _ => trivial

omit hg in
theorem importedFrom_reads : Reads l Anywhere importedFrom fun ns => ∀ n ∈ ns, l.Holds n := by
  have hnames : Reads l Anywhere (do
      word "import"
      importedNames
      return []) fun ns => ∀ n ∈ ns, l.Holds n :=
    (Reads.word _).bind fun _ _ => (importedNames_reads l).finish fun _ _ => by simp
  refine (Reads.oneSign _).many.bind fun dots _ => .ite ?_ ?_
  · exact (modulePath_reads l).bind fun _ _ => hnames
  · exact (modulePath_reads l).optional.bind fun _ _ => hnames

omit hg in
theorem nothing_reads : Reads l Anywhere nothing fun ns => ∀ n ∈ ns, l.Holds n := .pure (by simp)

theorem simpleStatement_reads : Reads l Anywhere (simpleStatement g) l.Holds := by
  have hnothing : ∀ w, Reads l Anywhere (keywordStatement w nothing) l.Holds :=
    fun _ => keywordStatement_reads l (nothing_reads l)
  have hnames : ∀ w, Reads l Anywhere (keywordStatement w nameList) l.Holds :=
    fun _ => keywordStatement_reads l (nameList_reads l)
  refine .dispatch fun t => ?_
  refine .ite (keywordStatement_reads l (returned_reads hg l)) ?_
  refine .ite (keywordStatement_reads l (importedModules_reads l)) ?_
  refine .ite (keywordStatement_reads l (importedFrom_reads l)) ?_
  refine .ite (keywordStatement_reads l (raised_reads hg l)) ?_
  refine .ite (hnothing _) ?_
  refine .ite (keywordStatement_reads l (deleted_reads hg l)) ?_
  refine .ite (keywordStatement_reads l (asserted_reads hg l)) ?_
  refine .ite (hnothing _) (.ite (hnothing _) (.ite (hnames _) (.ite (hnames _) ?_)))
  exact (expressionStatement_reads hg l).lift

theorem simpleStatements_reads :
    Reads l Anywhere (simpleStatements g) fun ns => ∀ n ∈ ns, l.Holds n := by
  have hnext : Reads l Anywhere (sign ";" *> simpleStatement g) l.Holds :=
    (Reads.sign _).after (simpleStatement_reads hg l)
  refine (simpleStatement_reads hg l).bind fun first hfirst => hnext.many.bind fun more hmore => ?_
  refine (Reads.sign _).optional.bind fun _ _ => (Reads.layout _).finish fun _ _ => ?_
  simpa [hfirst] using hmore

/-! ## Compound statements -/

theorem body_reads : Reads l Anywhere (body g) l.Holds :=
  (Reads.sign _).bind fun _ _ => hg.block l

/-- A body at the end of the parts of a statement. -/
theorem withBody_reads (parts : List Node) (hparts : ∀ n ∈ parts, l.Holds n) :
    Reads l Anywhere (body g >>= fun n => pure (parts ++ [n])) fun ns => ∀ n ∈ ns, l.Holds n :=
  (body_reads hg l).finish fun n hn => List.forall_mem_append.2 ⟨hparts, by simpa using hn⟩

theorem elseBlock_reads : Reads l Anywhere (elseBlock g) fun ns => ∀ n ∈ ns, l.Holds n := by
  refine (Reads.wordNext _).branch ((Reads.word _).bind fun _ _ => ?_) (.pure (by simp))
  exact withBody_reads hg l [] (by simp)

theorem guarded_reads : Reads l Anywhere (guarded g) fun ns => ∀ n ∈ ns, l.Holds n := by
  refine (namedExpression_phrase hg l).reads.bind fun condition hcondition => ?_
  exact withBody_reads hg l [condition] (by simpa using hcondition)

theorem ifParts_reads : Reads l Anywhere (ifParts g) fun ns => ∀ n ∈ ns, l.Holds n := by
  have helif : Reads l Anywhere (word "elif" *> guarded g) fun ns => ∀ n ∈ ns, l.Holds n :=
    (Reads.word _).after (guarded_reads hg l)
  refine (guarded_reads hg l).bind fun first hfirst => helif.many.bind fun more hmore => ?_
  refine (elseBlock_reads hg l).finish fun otherwise hotherwise => ?_
  exact List.forall_mem_append.2
    ⟨List.forall_mem_append.2 ⟨hfirst, holds_flatten l hmore⟩, hotherwise⟩

theorem whileParts_reads : Reads l Anywhere (whileParts g) fun ns => ∀ n ∈ ns, l.Holds n :=
  (guarded_reads hg l).bind fun _ hfirst => (elseBlock_reads hg l).finish fun _ hotherwise =>
    List.forall_mem_append.2 ⟨hfirst, hotherwise⟩

theorem forParts_reads : Reads l Anywhere (forParts g) fun ns => ∀ n ∈ ns, l.Holds n := by
  refine (targets_reads hg l).bind fun target htarget => (Reads.word _).bind fun _ _ => ?_
  refine (starExpressions_reads hg l).bind fun source hsource => ?_
  refine (body_reads hg l).bind fun loop hloop => ?_
  refine (elseBlock_reads hg l).finish fun otherwise hotherwise => ?_
  simpa [htarget, hsource, hloop] using hotherwise

theorem withItem_reads : Reads l (Follows l) (withItem g) fun ns => ∀ n ∈ ns, l.Holds n := by
  refine (hg.expression l).reads.bind fun context hcontext => ?_
  refine (Reads.wordNext _).branch ((Reads.word _).bind fun _ _ => ?_)
    (.pure (by simpa using hcontext))
  refine (target_reads hg l).bind fun t ht => (Reads.nextIs _).bind fun _ _ => ?_
  exact (Reads.check _).finish fun _ _ => by simp [hcontext, ht]

theorem withItems_reads : Reads l (Follows l) (withItems g) fun ns => ∀ n ∈ ns, l.Holds n := by
  have hitem := withItem_reads hg l
  refine .orElse ?_ (hitem.commaSeparated.finish fun _ => holds_flatten l)
  refine (Reads.sign _).bind fun _ _ => hitem.commaTerminated.bind fun (items, _) hitems => ?_
  refine (Reads.sign _).bind fun _ _ => (Reads.signNext _).bind fun _ _ => ?_
  exact (Reads.check _).finish fun _ _ => holds_flatten l hitems

theorem withParts_reads : Reads l Anywhere (withParts g) fun ns => ∀ n ∈ ns, l.Holds n :=
  (withItems_reads hg l).bind fun _ hitems => withBody_reads hg l _ hitems

theorem handledException_reads :
    Reads l Anywhere (handledException g) fun ns => ∀ n ∈ ns, l.Holds n := by
  refine (hg.expression l).reads.bind fun n hn => ?_
  refine (Reads.wordNext _).bind fun _ _ => .ite ?_ (.pure (by simpa using hn))
  exact (Reads.word _).bind fun _ _ => Reads.identifier.finish fun _ _ => by simpa using hn

theorem handler_reads (starred : Bool) :
    Reads l Anywhere (handler g starred) fun ns => ∀ n ∈ ns, l.Holds n := by
  have hexception := handledException_reads hg l
  refine (Reads.word _).bind fun _ _ => (Reads.signNext _).bind fun _ _ => .ite ?_ (.ite ?_ ?_)
  · exact ((Reads.sign _).after hexception).bind fun _ h => withBody_reads hg l _ h
  · exact withBody_reads hg l [] (by simp)
  · exact hexception.bind fun _ h => withBody_reads hg l _ h

theorem finallyBlock_reads : Reads l Anywhere (finallyBlock g) fun ns => ∀ n ∈ ns, l.Holds n :=
  (Reads.word _).bind fun _ _ => withBody_reads hg l [] (by simp)

theorem tryParts_reads : Reads l Anywhere (tryParts g) fun ns => ∀ n ∈ ns, l.Holds n := by
  refine (body_reads hg l).bind fun first hfirst => ?_
  have hrest : ∀ handlers : List (List Node), (∀ ns ∈ handlers, ∀ n ∈ ns, l.Holds n) →
      Reads l Anywhere (do
        if handlers.isEmpty then return first :: (← finallyBlock g)
        else
          let otherwise ← elseBlock g
          let final ← optional? (finallyBlock g)
          return first :: handlers.flatten ++ otherwise ++ final.getD [])
        fun ns => ∀ n ∈ ns, l.Holds n := by
    intro handlers hhandlers
    refine .ite ((finallyBlock_reads hg l).finish fun final hfinal => ?_) ?_
    · exact List.forall_mem_cons.2 ⟨hfirst, hfinal⟩
    refine (elseBlock_reads hg l).bind fun otherwise hotherwise => ?_
    refine (finallyBlock_reads hg l).optional.finish fun final hfinal => ?_
    refine List.forall_mem_append.2 ⟨List.forall_mem_append.2 ⟨?_, hotherwise⟩, ?_⟩
    · exact List.forall_mem_cons.2 ⟨hfirst, holds_flatten l hhandlers⟩
    · cases final with
      | none => simp
      | some ns => exact hfinal ns rfl
  refine (handler_reads hg l true).many.bind fun handlers hhandlers => .ite ?_ ?_
  · exact (handler_reads hg l false).many.bind hrest
  · exact hrest handlers hhandlers

theorem functionParts_reads :
    Reads l Anywhere (functionParts g) fun ns => ∀ n ∈ ns, l.Holds n := by
  refine Reads.identifier.bind fun _ _ => (Reads.sign _).bind fun _ _ => ?_
  refine (parameters_reads hg l true ")").bind fun params hparams => ?_
  refine (Reads.sign _).bind fun _ _ => (Reads.signNext _).bind fun _ _ => .ite ?_ ?_
  · have hresult : Reads l Anywhere (sign "->" *> some <$> g .expression) fun n? =>
        ∀ n ∈ n?, l.Holds n :=
      (Reads.sign _).after ((hg.expression l).reads.map fun n hn => by simpa using hn)
    refine hresult.bind fun n? hn => withBody_reads hg l _ (List.forall_mem_append.2 ⟨hparams, ?_⟩)
    simpa using hn
  · exact withBody_reads hg l _ (by simpa using hparams)

theorem classParts_reads : Reads l Anywhere (classParts g) fun ns => ∀ n ∈ ns, l.Holds n := by
  refine Reads.identifier.bind fun _ _ => (Reads.signNext _).bind fun _ _ => .ite ?_ ?_
  · refine (argumentsIn_reads hg l false).bind fun (bases, keywords) h => ?_
    exact withBody_reads hg l _ (List.forall_mem_append.2
      ⟨fun n hn => (h.positional n hn).2, h.keywords⟩)
  · exact withBody_reads hg l [] (by simp)

theorem asyncStatement_reads : Reads l Anywhere (asyncStatement g) l.Holds := by
  refine .compound ((Reads.word _).bind fun _ _ => ?_)
  refine Reads.finish (R := Anywhere) (P := l.Holds) ?_ fun n hn => by simpa using hn
  exact (keywordStatement_reads l (functionParts_reads hg l)).orElse
    ((keywordStatement_reads l (withParts_reads hg l)).orElse
      (keywordStatement_reads l (forParts_reads hg l)))

theorem decorator_reads : Reads l Anywhere (decorator g) l.Holds := by
  refine (Reads.sign _).bind fun _ _ => (namedExpression_phrase hg l).reads.bind fun n hn => ?_
  exact (Reads.layout _).finish fun _ _ => hn

theorem decorated_reads : Reads l Anywhere (decorated g) l.Holds := by
  have hdefinition : ∀ decorators : List Node, (∀ n ∈ decorators, l.Holds n) →
      ∀ n, l.Holds n → ∀ m ∈ decorators ++ [n], l.Holds m :=
    fun decorators hdecorators n hn => List.forall_mem_append.2 ⟨hdecorators, by simpa using hn⟩
  have hfunction := fun w => keywordStatement_reads l (w := w) (functionParts_reads hg l)
  refine .compound ?_
  refine (decorator_reads hg l).many₁.bind fun decorators hdecorators => ?_
  have hparts := hdefinition decorators hdecorators
  refine (Reads.wordNext _).bind fun _ _ => (Reads.wordNext _).bind fun _ _ => .ite ?_ (.ite ?_ ?_)
  · exact (keywordStatement_reads l (classParts_reads hg l)).finish hparts
  · refine (keywordStatement_reads l ?_).finish hparts
    exact (hfunction "def").finish fun n hn => by simpa using hn
  · exact (hfunction "def").finish hparts

/-! ## Match statements -/

theorem matchSubject_reads : Reads l (Follows l) (matchSubject g) l.Holds := by
  refine (Reads.signNext _).bind fun _ _ => ?_
  refine (Reads.tupled (starNamedExpression_phrase hg l).reads.lift).bind fun n hn => ?_
  exact (Reads.check _).finish fun _ _ => hn

theorem caseClause_reads : Reads l Anywhere (caseClause g) fun ns => ∀ n ∈ ns, l.Holds n := by
  refine (Reads.word _).bind fun _ _ => (patterns_reads hg l).bind fun p hp => ?_
  have hrest : ∀ n? : Option Node, (∀ n ∈ n?, l.Holds n) →
      Reads l Anywhere (body g >>= fun n => pure (p :: n?.toList ++ [n]))
        fun ns => ∀ n ∈ ns, l.Holds n :=
    fun n? hn => withBody_reads hg l _ (List.forall_mem_cons.2 ⟨hp, by simpa using hn⟩)
  refine (Reads.wordNext _).bind fun _ _ => .ite ?_ (hrest none nofun)
  have hcondition : Reads l Anywhere (word "if" *> some <$> namedExpression g) fun n? =>
      ∀ n ∈ n?, l.Holds n :=
    (Reads.word _).after ((namedExpression_phrase hg l).reads.map fun n hn => by simpa using hn)
  exact hcondition.bind hrest

theorem matchStatement_reads : Reads l Anywhere (matchStatement g) l.Holds := by
  refine keywordStatement_reads l ((matchSubject_reads hg l).bind fun subject hsubject => ?_)
  refine (Reads.sign _).bind fun _ _ => (Reads.layout _).bind fun _ _ => ?_
  refine (Reads.layout _).bind fun _ _ => (caseClause_reads hg l).many₁.bind fun cases hcases => ?_
  refine (Reads.layout _).finish fun _ _ => List.forall_mem_cons.2 ⟨hsubject, ?_⟩
  exact holds_flatten l hcases

/-! ## Blocks -/

theorem statement_reads : Reads l Anywhere (statement g) fun ns => ∀ n ∈ ns, l.Holds n := by
  have hone : ∀ {p : Parser Node}, Reads l Anywhere p l.Holds →
      Reads l Anywhere (p >>= fun n => pure [n]) fun ns => ∀ n ∈ ns, l.Holds n :=
    fun hp => hp.finish fun n hn => by simpa using hn
  have hkeyword : ∀ {w : String} {p : Parser (List Node)},
      Reads l Anywhere p (fun ns => ∀ n ∈ ns, l.Holds n) →
      Reads l Anywhere (keywordStatement w p >>= fun n => pure [n])
        fun ns => ∀ n ∈ ns, l.Holds n :=
    fun hp => hone (keywordStatement_reads l hp)
  refine .dispatch fun t => ?_
  refine .ite (hkeyword (ifParts_reads hg l)) (.ite (hkeyword (whileParts_reads hg l)) ?_)
  refine .ite (hkeyword (forParts_reads hg l)) (.ite (hkeyword (withParts_reads hg l)) ?_)
  refine .ite (hkeyword (tryParts_reads hg l)) (.ite (hkeyword (functionParts_reads hg l)) ?_)
  refine .ite (hkeyword (classParts_reads hg l)) (.ite (hone (asyncStatement_reads hg l)) ?_)
  refine .ite (hone (decorated_reads hg l)) (.ite ?_ (simpleStatements_reads hg l))
  refine (matchStatement_reads hg l).optional.bind fun n? hn => ?_
  cases n? with
  | none => exact simpleStatements_reads hg l
  | some n => exact .pure (by simpa using hn n rfl)

theorem statements_reads : Reads l Anywhere (statements g) fun ns => ∀ n ∈ ns, l.Holds n :=
  (statement_reads hg l).many.finish fun _ => holds_flatten l

theorem block_reads : Reads l Anywhere (block g) l.Holds := by
  refine .compound ((Reads.nextIs _).branch ?_ (simpleStatements_reads hg l))
  refine (Reads.layout _).bind fun _ _ => (Reads.layout _).bind fun _ _ => ?_
  refine (statement_reads hg l).bind fun first hfirst => ?_
  refine (statements_reads hg l).bind fun more hmore => ?_
  exact (Reads.layout _).finish fun _ _ => List.forall_mem_append.2 ⟨hfirst, hmore⟩

/-! ## Grammars -/

omit hg in
/-- The grammar of every depth gives nodes that lie where they were read. -/
theorem faithful_grammar (depth : Nat) : Faithful (grammar depth) := by
  induction depth with
  | zero => exact ⟨fun _ => .failure, fun _ _ _ => .failure, fun _ => .failure⟩
  | succ depth ih =>
    refine ⟨expression_phrase ih, fun l goal hgoal => ?_, block_reads ih⟩
    cases goal with
    | expression => exact (expression_phrase ih l).reads.lift
    | disjunction => exact (disjunction_phrase ih l).reads.lift
    | inversion => exact (inversion_phrase ih l).reads.lift
    | bitwiseOr => exact (bitwiseOr_phrase ih l).reads.lift
    | factor => exact (factor_phrase ih l).reads.lift
    | primary => exact (primary_phrase ih l).reads.lift
    | starExpressions => exact starExpressions_reads ih l
    | pattern => exact pattern_reads ih l
    | block => exact absurd rfl hgoal

omit hg in
theorem file_reads (depth : Nat) : Reads l Anywhere (file depth) l.Holds := by
  refine .compound ?_
  refine (statements_reads (faithful_grammar depth) l).bind fun nodes hnodes => ?_
  exact (Reads.layout _).finish fun _ _ => hnodes

end TextDomain.Parser
