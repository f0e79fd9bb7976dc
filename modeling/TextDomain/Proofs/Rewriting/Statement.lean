import TextDomain.Proofs.Rewriting.Pattern

/-!
# Statements that are read alike

One lemma for each rule of `Source.Grammar.Statement`, over two grammars for the phrases
inside. A statement begins with a word of its own or with an expression, which is read
ahead of any other token.

## Main results

* `statements_agree`, `block_agrees` — the rules for statements.
-/

namespace TextDomain

namespace Parser

variable {g g' : Grammar} {n : Nat} (w : Rewriting)

/-! ## Imports -/

theorem modulePath_agrees : Agrees w n 1 Eq modulePath modulePath :=
  (dottedName_agrees w).map fun _ _ _ => rfl

theorem importedAs_agrees : Agrees w n 0 Eq importedAs importedAs := by
  refine (Agrees.wordNext _).branch ((Agrees.word _).bind fun _ _ _ => ?_) (.pure rfl)
  exact Agrees.identifier.finish fun _ _ _ => rfl

theorem importedModules_agrees : Agrees w n 1 (Parts w) importedModules importedModules :=
  ((modulePath_agrees w).after (importedAs_agrees w)).commaSeparated.map fun _ _ _ => .nil

theorem importedNames_agrees : Agrees w n 1 Eq importedNames importedNames := by
  have hname := Agrees.identifier.after (importedAs_agrees (n := n) w)
  refine (Agrees.signNext _).branch (.sign _) ((Agrees.signNext _).branch ?_ ?_)
  · refine (Agrees.sign _).next fun _ _ _ => hname.commaTerminated.bind fun _ _ _ => ?_
    exact (Agrees.sign _).weaken
  · exact hname.commaSeparated.map fun _ _ _ => rfl

theorem importedFrom_agrees : Agrees w n 0 (Parts w) importedFrom importedFrom := by
  refine (Agrees.oneSign _).many.bind fun dots dots' hdots => ?_
  have himport : Agrees w n 0 (Parts w)
      (word "import" >>= fun _ => importedNames >>= fun _ => pure [])
      (word "import" >>= fun _ => importedNames >>= fun _ => pure []) :=
    (Agrees.word _).bind fun _ _ _ => (importedNames_agrees w).finish fun _ _ _ => .nil
  refine .ite (by cases hdots <;> rfl) ?_ ?_
  · exact (modulePath_agrees w).bind fun _ _ _ => himport
  · exact (modulePath_agrees w).optional.bind fun _ _ _ => himport

theorem nameList_agrees : Agrees w n 1 (Parts w) nameList nameList :=
  Agrees.identifier.commaSeparated.map fun _ _ _ => .nil

/-! ## Simple statements -/

theorem assignedValue_agrees (hg : Ahead n g g') :
    Agrees w n 1 w.NodeMaps (assignedValue g) (assignedValue g') :=
  (Agrees.wordNext _).branch (yieldExpression_agrees w hg.toInner) (starExpressions_agrees w hg)

/-- The value read last and those before it. -/
theorem assignMore_agrees (hg : Ahead n g g') {r r' : Node × List Node}
    (h : w.NodeMaps r.1 r'.1 ∧ Parts w r.2 r'.2) :
    Agrees w n 1 (fun r r' => w.NodeMaps r.1 r'.1 ∧ Parts w r.2 r'.2) (assignMore g r)
      (assignMore g' r') := by
  refine (Agrees.sign _).next fun _ _ _ => ?_
  refine (Agrees.check h.1.isTarget).bind fun _ _ _ => ?_
  exact (assignedValue_agrees w hg).finish fun _ _ hn => ⟨hn, .cons h.1 h.2⟩

theorem expressionStatement_agrees (hg : Ahead n g g') :
    Agrees w n 1 w.NodeMaps (expressionStatement g) (expressionStatement g') := by
  refine .compound .other ((Agrees.wordNext _).branch ?_ ?_)
  · exact (yieldExpression_agrees w hg.toInner).map fun _ _ => parts_one
  refine (starExpressions_agrees w hg).then fun first first' hfirst m hm => ?_
  have hg := hg.reach m hm
  have hvalue := assignedValue_agrees w hg.ahead
  refine (Agrees.signNext _).branch ?_ ((Agrees.signNext _).branch ?_
    ((Agrees.nextIs (spelled_any_isSign _).same).branch ?_ (.pure (parts_one hfirst))))
  · refine Agrees.bind (.extend (fun _ _ => assignMore_agrees w hg.ahead) ⟨hfirst, .nil⟩)
      fun (last, before) (last', before') ⟨hlast, hbefore⟩ => ?_
    refine (Agrees.check (by cases hbefore <;> rfl)).finish fun _ _ _ => ?_
    exact List.rel_append (List.rel_reverse hbefore) (parts_one hlast)
  · refine (Agrees.check hfirst.isSingleTarget).bind fun _ _ _ => ?_
    refine (Agrees.sign _).bind fun _ _ _ => ?_
    refine (hg.goals w .expression).bind fun type type' htype => ?_
    refine (Agrees.signNext _).branch ?_ (.pure (.cons hfirst (parts_one htype)))
    refine (Agrees.sign _).bind fun _ _ _ => hvalue.finish fun _ _ hn => ?_
    exact .cons hfirst (.cons htype (parts_one hn))
  · refine (Agrees.check hfirst.isSingleTarget).bind fun _ _ _ => ?_
    refine (Agrees.oneSign _).bind fun _ _ _ => hvalue.finish fun _ _ hn => ?_
    exact .cons hfirst (parts_one hn)

/-- A word and then parts on cheaper streams. -/
theorem keywordStatement_agrees {p q : Parser (List Node)} (word : String)
    (h : ∀ m, m + 2 ≤ n → Agrees w m 0 (Parts w) p q) :
    Agrees w n 1 w.NodeMaps (keywordStatement word p) (keywordStatement word q) :=
  .compound .other ((Agrees.word _).then fun _ _ _ => h)

section Reach

variable (hg : Reach n g g')

include hg

theorem returned_agrees : Agrees w n 0 (Parts w) (returned g) (returned g') :=
  (starExpressions_agrees w hg.ahead).optional.finish fun _ _ => parts_toList

theorem raised_agrees : Agrees w n 0 (Parts w) (raised g) (raised g') := by
  refine (hg.goals w .expression).optional.bind fun n? n?' hn => ?_
  cases hn with
  | none => exact .pure .nil
  | some hn =>
    refine (Agrees.wordNext _).branch ?_ (.pure (parts_one hn))
    refine (Agrees.word _).bind fun _ _ _ => ?_
    exact (hg.goals w .expression).finish fun _ _ hcause => .cons hn (parts_one hcause)

theorem deleted_agrees : Agrees w n 0 (Parts w) (deleted g) (deleted g') := by
  refine (hg.goals w .primary).commaTerminated.bind fun (nodes, _) (nodes', _) h => ?_
  exact (Agrees.check (Rewriting.areDeletable_of_parts h.1)).finish fun _ _ _ => h.1

theorem asserted_agrees : Agrees w n 0 (Parts w) (asserted g) (asserted g') := by
  refine (hg.goals w .expression).bind fun condition condition' hcondition => ?_
  refine (Agrees.signNext _).branch ?_ (.pure (parts_one hcondition))
  refine (Agrees.sign _).bind fun _ _ _ => ?_
  exact (hg.goals w .expression).finish fun _ _ hn => .cons hcondition (parts_one hn)

end Reach

theorem simpleStatement_agrees (hg : Ahead n g g') :
    Agrees w n 1 w.NodeMaps (simpleStatement g) (simpleStatement g') := by
  refine .dispatch fun t t' halike => ?_
  have hword : ∀ s, isWord t s = isWord t' s := fun s => (spelled_isWord s).same halike
  have hkeyword : ∀ (s : String) {p q : Parser (List Node)},
      (∀ m, Reach m g g' → Agrees w m 0 (Parts w) p q) →
      Agrees w n 1 w.NodeMaps (keywordStatement s p) (keywordStatement s q) :=
    fun s _ _ h => keywordStatement_agrees w s fun m hm => h m (hg.reach m hm)
  refine .ite (hword _) (hkeyword _ fun _ hg => returned_agrees w hg) ?_
  refine .ite (hword _) (hkeyword _ fun _ _ => (importedModules_agrees w).weaken) ?_
  refine .ite (hword _) (hkeyword _ fun _ _ => importedFrom_agrees w) ?_
  refine .ite (hword _) (hkeyword _ fun _ hg => raised_agrees w hg) ?_
  refine .ite (hword _) (hkeyword _ fun _ _ => .pure .nil) ?_
  refine .ite (hword _) (hkeyword _ fun _ hg => deleted_agrees w hg) ?_
  refine .ite (hword _) (hkeyword _ fun _ hg => asserted_agrees w hg) ?_
  refine .ite (hword _) (hkeyword _ fun _ _ => .pure .nil) ?_
  refine .ite (hword _) (hkeyword _ fun _ _ => .pure .nil) ?_
  refine .ite (hword _) (hkeyword _ fun _ _ => (nameList_agrees w).weaken) ?_
  refine .ite (hword _) (hkeyword _ fun _ _ => (nameList_agrees w).weaken) ?_
  exact expressionStatement_agrees w hg

theorem simpleStatements_agrees (hg : Ahead n g g') :
    Agrees w n 1 (Parts w) (simpleStatements g) (simpleStatements g') := by
  have hstatement := simpleStatement_agrees w hg
  refine hstatement.next fun _ _ hfirst => ?_
  refine ((Agrees.sign _).after hstatement).many.bind fun _ _ hmore => ?_
  refine (Agrees.sign _).optional.bind fun _ _ _ => ?_
  exact (Agrees.ofKind (k := .newline) (by decide)).finish fun _ _ _ => .cons hfirst hmore

/-! ## Compound statements -/

section Reach

variable (hg : Reach n g g')

include hg

theorem body_agrees : Agrees w n 1 w.NodeMaps (body g) (body g') :=
  (Agrees.sign _).next fun _ _ _ => (hg.goals w .block).weaken

theorem elseBlock_agrees : Agrees w n 0 (Parts w) (elseBlock g) (elseBlock g') := by
  refine (Agrees.wordNext _).branch ((Agrees.word _).bind fun _ _ _ => ?_) (.pure .nil)
  exact (body_agrees w hg).finish fun _ _ => parts_one

theorem guarded_agrees : Agrees w n 1 (Parts w) (guarded g) (guarded g') := by
  refine (namedExpression_agrees w hg).next fun _ _ hcondition => ?_
  exact (body_agrees w hg).finish fun _ _ hbody => .cons hcondition (parts_one hbody)

theorem ifParts_agrees : Agrees w n 0 (Parts w) (ifParts g) (ifParts g') := by
  refine (guarded_agrees w hg).bind fun _ _ hfirst => ?_
  refine ((Agrees.word _).after (guarded_agrees w hg)).many.bind fun _ _ hmore => ?_
  exact (elseBlock_agrees w hg).finish fun _ _ helse =>
    List.rel_append (List.rel_append hfirst (parts_flatten hmore)) helse

theorem whileParts_agrees : Agrees w n 0 (Parts w) (whileParts g) (whileParts g') := by
  refine (guarded_agrees w hg).bind fun _ _ hfirst => ?_
  exact (elseBlock_agrees w hg).finish fun _ _ helse => List.rel_append hfirst helse

theorem forParts_agrees : Agrees w n 0 (Parts w) (forParts g) (forParts g') := by
  refine (targets_agrees w hg).bind fun _ _ htarget => ?_
  refine (Agrees.word _).bind fun _ _ _ => ?_
  refine (starExpressions_agrees w hg.ahead).bind fun _ _ hsource => ?_
  refine (body_agrees w hg).bind fun _ _ hbody => ?_
  exact (elseBlock_agrees w hg).finish fun _ _ helse =>
    .cons htarget (.cons hsource (.cons hbody helse))

theorem withItem_agrees : Agrees w n 1 (Parts w) (withItem g) (withItem g') := by
  refine (hg.goals w .expression).next fun _ _ hcontext => ?_
  refine (Agrees.wordNext _).branch ?_ (.pure (parts_one hcontext))
  refine (Agrees.word _).bind fun _ _ _ => (target_agrees w hg).bind fun _ _ htarget => ?_
  have hend := ((spelled_isSign ",").or (spelled_isSign ")")).or (spelled_isSign ":")
  refine (Agrees.nextIs hend.same).bind fun _ _ h => ?_
  exact (Agrees.check h).finish fun _ _ _ => .cons hcontext (parts_one htarget)

theorem withItems_agrees : Agrees w n 1 (Parts w) (withItems g) (withItems g') := by
  refine .orElse ?_ ((withItem_agrees w hg).commaSeparated.map fun _ _ => parts_flatten)
  refine (Agrees.sign _).next fun _ _ _ => ?_
  refine (withItem_agrees w hg).commaTerminated.bind fun (items, _) (items', _) h => ?_
  refine (Agrees.sign _).bind fun _ _ _ => (Agrees.signNext _).bind fun _ _ hcolon => ?_
  exact (Agrees.check hcolon).finish fun _ _ _ => parts_flatten h.1

theorem withParts_agrees : Agrees w n 0 (Parts w) (withParts g) (withParts g') := by
  refine (withItems_agrees w hg).bind fun _ _ hitems => ?_
  exact (body_agrees w hg).finish fun _ _ hbody => List.rel_append hitems (parts_one hbody)

theorem handledException_agrees :
    Agrees w n 1 (Parts w) (handledException g) (handledException g') := by
  refine (hg.goals w .expression).next fun _ _ hn => ?_
  refine (Agrees.wordNext _).branch ((Agrees.word _).bind fun _ _ _ => ?_) (.pure (parts_one hn))
  exact Agrees.identifier.finish fun _ _ _ => parts_one hn

theorem handler_agrees (starred : Bool) :
    Agrees w n 1 (Parts w) (handler g starred) (handler g' starred) := by
  have hbody : ∀ ns ns', Parts w ns ns' →
      Agrees w n 0 (Parts w) (body g >>= fun b => pure (ns ++ [b]))
        (body g' >>= fun b => pure (ns' ++ [b])) := fun _ _ h =>
    (body_agrees w hg).finish fun _ _ hbody => List.rel_append h (parts_one hbody)
  refine (Agrees.word _).next fun _ _ _ => ?_
  cases starred with
  | true => exact ((Agrees.sign _).after (handledException_agrees w hg)).bind hbody
  | false =>
    refine (Agrees.signNext _).branch (hbody _ _ .nil) ?_
    exact (handledException_agrees w hg).bind hbody

theorem finallyBlock_agrees : Agrees w n 1 (Parts w) (finallyBlock g) (finallyBlock g') :=
  (Agrees.word _).next fun _ _ _ => (body_agrees w hg).finish fun _ _ => parts_one

theorem tryParts_agrees : Agrees w n 0 (Parts w) (tryParts g) (tryParts g') := by
  refine (body_agrees w hg).bind fun first first' hfirst => ?_
  have hrest : ∀ hs hs' : List (List Node), List.Forall₂ (Parts w) hs hs' →
      Agrees w n 0 (Parts w)
        (if hs.isEmpty then finallyBlock g >>= fun last => pure (first :: last)
          else elseBlock g >>= fun otherwise => optional? (finallyBlock g) >>= fun last =>
            pure (first :: hs.flatten ++ otherwise ++ last.getD []))
        (if hs'.isEmpty then finallyBlock g' >>= fun last => pure (first' :: last)
          else elseBlock g' >>= fun otherwise => optional? (finallyBlock g') >>= fun last =>
            pure (first' :: hs'.flatten ++ otherwise ++ last.getD [])) := by
    intro hs hs' h
    refine .ite (by cases h <;> rfl) ?_ ?_
    · exact (finallyBlock_agrees w hg).finish fun _ _ hlast => .cons hfirst hlast
    · refine (elseBlock_agrees w hg).bind fun _ _ helse => ?_
      refine (finallyBlock_agrees w hg).optional.finish fun last? last?' hlast => ?_
      refine List.rel_append (List.rel_append (.cons hfirst (parts_flatten h)) helse) ?_
      cases hlast with
      | none => exact .nil
      | some hlast => exact hlast
  refine (handler_agrees w hg true).many.bind fun handlers handlers' hhandlers => ?_
  refine .ite (by cases hhandlers <;> rfl) ?_ (hrest _ _ hhandlers)
  exact (handler_agrees w hg false).many.bind hrest

theorem functionParts_agrees : Agrees w n 0 (Parts w) (functionParts g) (functionParts g') := by
  refine Agrees.identifier.bind fun _ _ _ => (Agrees.sign _).bind fun _ _ _ => ?_
  refine (parameters_agrees w hg true ")").bind fun params params' hparams => ?_
  refine (Agrees.sign _).bind fun _ _ _ => ?_
  have hbody : ∀ result result' : Option Node, Option.Rel w.NodeMaps result result' →
      Agrees w n 0 (Parts w)
        (body g >>= fun b => pure (params ++ result.toList ++ [b]))
        (body g' >>= fun b => pure (params' ++ result'.toList ++ [b])) := fun _ _ hresult =>
    (body_agrees w hg).finish fun _ _ hbody =>
      List.rel_append (List.rel_append hparams (parts_toList hresult)) (parts_one hbody)
  refine (Agrees.signNext _).branch ?_ (hbody none none .none)
  have hresult : Agrees w n 0 (Option.Rel w.NodeMaps) (some <$> g .expression)
      (some <$> g' .expression) := (hg.goals w .expression).finish fun _ _ hn => .some hn
  exact ((Agrees.sign _).after hresult).bind hbody

theorem classParts_agrees : Agrees w n 0 (Parts w) (classParts g) (classParts g') := by
  refine Agrees.identifier.bind fun _ _ _ => ?_
  have hbody : ∀ r r' : List Node × List Node, Parts w r.1 r'.1 ∧ Parts w r.2 r'.2 →
      Agrees w n 0 (Parts w) (body g >>= fun b => pure (r.1 ++ r.2 ++ [b]))
        (body g' >>= fun b => pure (r'.1 ++ r'.2 ++ [b])) := fun _ _ hr =>
    (body_agrees w hg).finish fun _ _ hbody =>
      List.rel_append (List.rel_append hr.1 hr.2) (parts_one hbody)
  refine (Agrees.signNext _).branch ?_ (hbody ([], []) ([], []) ⟨.nil, .nil⟩)
  exact (argumentsIn_agrees w hg.inner false).bind hbody

/-! ## Match statements -/

theorem matchSubject_agrees : Agrees w n 1 w.NodeMaps (matchSubject g) (matchSubject g') := by
  refine (Agrees.signNext _).bind fun _ _ hstarred => ?_
  refine (starNamedExpression_agrees w hg).tupled.next fun _ _ hn => ?_
  exact (Agrees.check (by rw [hstarred, hn.form])).finish fun _ _ _ => hn

theorem caseClause_agrees : Agrees w n 1 (Parts w) (caseClause g) (caseClause g') := by
  refine (Agrees.word _).next fun _ _ _ => (patterns_agrees w hg).bind fun p p' hp => ?_
  have hbody : ∀ condition condition' : Option Node,
      Option.Rel w.NodeMaps condition condition' →
      Agrees w n 0 (Parts w)
        (body g >>= fun b => pure (p :: condition.toList ++ [b]))
        (body g' >>= fun b => pure (p' :: condition'.toList ++ [b])) := fun _ _ hcondition =>
    (body_agrees w hg).finish fun _ _ hbody =>
      .cons hp (List.rel_append (parts_toList hcondition) (parts_one hbody))
  refine (Agrees.wordNext _).branch ?_ (hbody none none .none)
  have hcondition : Agrees w n 0 (Option.Rel w.NodeMaps) (some <$> namedExpression g)
      (some <$> namedExpression g') := (namedExpression_agrees w hg).finish fun _ _ hn => .some hn
  exact ((Agrees.word _).after hcondition).bind hbody

end Reach

section Inner

variable (hg : Inner n g g')

include hg

theorem asyncStatement_agrees :
    Agrees w n 1 w.NodeMaps (asyncStatement g) (asyncStatement g') := by
  refine .compound .other ((Agrees.word _).then fun _ _ _ m hm => ?_)
  have hg := hg.reach m hm
  have hdef := keywordStatement_agrees w "def" fun k (hk : k + 2 ≤ m) =>
    functionParts_agrees w (hg.mono (by omega))
  have hwith := keywordStatement_agrees w "with" fun k (hk : k + 2 ≤ m) =>
    withParts_agrees w (hg.mono (by omega))
  have hfor := keywordStatement_agrees w "for" fun k (hk : k + 2 ≤ m) =>
    forParts_agrees w (hg.mono (by omega))
  exact (hdef.orElse (hwith.orElse hfor)).finish fun _ _ => parts_one

theorem decorator_agrees : Agrees w n 1 w.NodeMaps (decorator g) (decorator g') := by
  refine (Agrees.sign _).then fun _ _ _ m hm => ?_
  refine (namedExpression_agrees w (hg.reach m hm)).bind fun _ _ hn => ?_
  exact (Agrees.ofKind (k := .newline) (by decide)).finish fun _ _ _ => hn

theorem decorated_agrees : Agrees w n 1 w.NodeMaps (decorated g) (decorated g') := by
  have hdefinition : ∀ k, k ≤ n → Agrees w k 1 w.NodeMaps
      (keywordStatement "def" (functionParts g)) (keywordStatement "def" (functionParts g')) :=
    fun k hk => keywordStatement_agrees w _ fun m hm =>
      functionParts_agrees w (hg.reach m (by omega))
  refine .compound .other ((decorator_agrees w hg).many₁.next fun decorators decorators' h => ?_)
  have hend : ∀ d d' : Node, w.NodeMaps d d' →
      Agrees w n 0 (Parts w) (pure (decorators ++ [d])) (pure (decorators' ++ [d'])) :=
    fun _ _ hd => .pure (List.rel_append h (parts_one hd))
  refine (Agrees.wordNext _).bind fun _ _ hclass => (Agrees.wordNext _).bind fun _ _ hasync => ?_
  refine .ite hclass ?_ (.ite hasync ?_ ?_)
  · exact Agrees.bind (keywordStatement_agrees w _ fun m hm => classParts_agrees w (hg.reach m hm))
      hend
  · refine Agrees.bind (keywordStatement_agrees w _ fun m hm => ?_) hend
    exact (hdefinition m (by omega)).finish fun _ _ => parts_one
  · exact (hdefinition n (Nat.le_refl n)).bind hend

theorem matchStatement_agrees :
    Agrees w n 1 w.NodeMaps (matchStatement g) (matchStatement g') := by
  refine keywordStatement_agrees w _ fun m hm => ?_
  have hg := hg.reach m hm
  refine (matchSubject_agrees w hg).bind fun _ _ hsubject => (Agrees.sign _).bind fun _ _ _ => ?_
  refine (Agrees.ofKind (k := .newline) (by decide)).bind fun _ _ _ => ?_
  refine (Agrees.ofKind (k := .indent) (by decide)).bind fun _ _ _ => ?_
  refine (caseClause_agrees w hg).many₁.bind fun _ _ hcases => ?_
  exact (Agrees.ofKind (k := .dedent) (by decide)).finish fun _ _ _ =>
    .cons hsubject (parts_flatten hcases)

end Inner

/-! ## Blocks -/

variable (hg : Ahead n g g')

include hg

theorem statement_agrees : Agrees w n 1 (Parts w) (statement g) (statement g') := by
  have hone : ∀ {p q : Parser Node}, Agrees w n 1 w.NodeMaps p q →
      Agrees w n 1 (Parts w) (p >>= fun n => pure [n]) (q >>= fun n => pure [n]) :=
    fun h => h.map fun _ _ => parts_one
  have hkeyword : ∀ (s : String) {p q : Parser (List Node)},
      (∀ m, Reach m g g' → Agrees w m 0 (Parts w) p q) →
      Agrees w n 1 (Parts w) (keywordStatement s p >>= fun n => pure [n])
        (keywordStatement s q >>= fun n => pure [n]) :=
    fun s _ _ h => hone (keywordStatement_agrees w s fun m hm => h m (hg.reach m hm))
  have hsimple := simpleStatements_agrees w hg
  refine .dispatch fun t t' halike => ?_
  have hword : ∀ s, isWord t s = isWord t' s := fun s => (spelled_isWord s).same halike
  refine .ite (hword _) (hkeyword _ fun _ hg => ifParts_agrees w hg) ?_
  refine .ite (hword _) (hkeyword _ fun _ hg => whileParts_agrees w hg) ?_
  refine .ite (hword _) (hkeyword _ fun _ hg => forParts_agrees w hg) ?_
  refine .ite (hword _) (hkeyword _ fun _ hg => withParts_agrees w hg) ?_
  refine .ite (hword _) (hkeyword _ fun _ hg => tryParts_agrees w hg) ?_
  refine .ite (hword _) (hkeyword _ fun _ hg => functionParts_agrees w hg) ?_
  refine .ite (hword _) (hkeyword _ fun _ hg => classParts_agrees w hg) ?_
  refine .ite (hword _) (hone (asyncStatement_agrees w hg.toInner)) ?_
  refine .ite ((spelled_isSign _).same halike) (hone (decorated_agrees w hg.toInner)) ?_
  refine .ite (hword _) ?_ hsimple
  exact (matchStatement_agrees w hg.toInner).attempt (fun _ _ hn => .pure (parts_one hn)) hsimple

theorem statements_agrees : Agrees w n 0 (Parts w) (statements g) (statements g') :=
  (statement_agrees w hg).many.finish fun _ _ => parts_flatten

theorem block_agrees : Agrees w n 1 w.NodeMaps (block g) (block g') := by
  refine .compound .other ((Agrees.nextIs (spelled_kind (k := .newline) (by decide)).same).branch ?_
    (simpleStatements_agrees w hg))
  refine (Agrees.ofKind (k := .newline) (by decide)).next fun _ _ _ => ?_
  refine (Agrees.ofKind (k := .indent) (by decide)).bind fun _ _ _ => ?_
  refine (statement_agrees w hg).bind fun _ _ hfirst => ?_
  refine (statements_agrees w hg).bind fun _ _ hmore => ?_
  exact (Agrees.ofKind (k := .dedent) (by decide)).finish fun _ _ _ => List.rel_append hfirst hmore

end Parser

end TextDomain
