import TextDomain.Proofs.Rewriting.Literal

/-!
# Expressions that are read alike

One lemma for each rule of `Source.Grammar.Expression`, over two grammars for the phrases
inside. A rule that may begin with a phrase of the grammar asks that the grammars agree on
the stream at hand (`Reach`); one that takes a token first asks for less (`Inner`).

## Main results

* `expression_agrees`, `primary_agrees` — the rules for expressions.
-/

namespace TextDomain

namespace Parser

variable {g g' : Grammar} {n : Nat} (w : Rewriting)

/-- The nodes correspond one by one. -/
abbrev Parts (w : Rewriting) : List Node → List Node → Prop := List.Forall₂ w.NodeMaps

theorem parts_flatten {w : Rewriting} {nss nss' : List (List Node)}
    (h : List.Forall₂ (Parts w) nss nss') : Parts w nss.flatten nss'.flatten :=
  List.rel_flatten h

theorem parts_toList {w : Rewriting} {n? n?' : Option Node} (h : Option.Rel w.NodeMaps n? n?') :
    Parts w n?.toList n?'.toList := by
  cases h with
  | none => exact .nil
  | some h => exact .cons h .nil

theorem parts_one {w : Rewriting} {n n' : Node} (h : w.NodeMaps n n') : Parts w [n] [n'] :=
  .cons h .nil

theorem comparisonOperator_agrees : Agrees w n 1 Eq comparisonOperator comparisonOperator :=
  .orElse (.oneSign _) (.orElse (.word _) (.orElse ((Agrees.word _).after (.word _))
    (.orElse ((Agrees.word _).after (.word _)) (.word _))))

/-! ## Names, starred and named expressions -/

section Reach

variable (hg : Reach n g g')

include hg

theorem namedExpression_agrees :
    Agrees w n 1 w.NodeMaps (namedExpression g) (namedExpression g') := by
  refine (Agrees.nameThenSign _).branch (.compound .other ?_) (hg.goals w .expression)
  refine Agrees.nameNode.next fun name name' hname => ?_
  refine (Agrees.sign _).bind fun _ _ _ => ?_
  exact (hg.goals w .expression).finish fun _ _ hn => .cons hname (parts_one hn)

theorem starredOperand_agrees :
    Agrees w n 1 w.NodeMaps (starredOperand g) (starredOperand g') :=
  .compound .starred ((Agrees.sign _).next fun _ _ _ =>
    (hg.goals w .bitwiseOr).finish fun _ _ => parts_one)

theorem starNamedExpression_agrees :
    Agrees w n 1 w.NodeMaps (starNamedExpression g) (starNamedExpression g') :=
  (Agrees.signNext _).branch (starredOperand_agrees w hg) (namedExpression_agrees w hg)

omit hg in
theorem yieldExpression_agrees (hg : Inner n g g') :
    Agrees w n 1 w.NodeMaps (yieldExpression g) (yieldExpression g') := by
  refine .compound .other ((Agrees.word _).then fun _ _ _ m hm => ?_)
  have hg := hg.reach m hm
  refine (Agrees.wordNext _).branch ?_ ?_
  · refine (Agrees.word _).bind fun _ _ _ => ?_
    exact (hg.goals w .expression).finish fun _ _ => parts_one
  · exact (hg.goals w .starExpressions).optional.finish fun _ _ => parts_toList

/-! ## Targets and comprehensions -/

theorem target_agrees : Agrees w n 1 w.NodeMaps (target g) (target g') := by
  have hcheck : ∀ t t' : Node, w.NodeMaps t t' →
      Agrees w n 0 w.NodeMaps (check t.isTarget >>= fun _ => pure t)
        (check t'.isTarget >>= fun _ => pure t') :=
    fun t t' h => (Agrees.check h.isTarget).bind fun _ _ _ => .pure h
  refine (Agrees.signNext _).branch ?_ ((hg.goals w .primary).next hcheck)
  refine Agrees.next (.compound .starred ((Agrees.sign _).next fun _ _ _ => ?_)) hcheck
  exact (hg.goals w .primary).finish fun _ _ => parts_one

theorem targets_agrees : Agrees w n 1 w.NodeMaps (targets g) (targets g') :=
  (target_agrees w hg).tupled

omit hg in
theorem comprehensionNext_agrees : Agrees w n 0 Eq comprehensionNext comprehensionNext := by
  refine (Agrees.wordNext _).bind fun _ _ hfor => ?_
  exact (Agrees.wordNext _).finish fun _ _ hasync => by rw [hfor, hasync]

theorem comprehensionClause_agrees :
    Agrees w n 1 (Parts w) (comprehensionClause g) (comprehensionClause g') := by
  refine (Agrees.word _).optional.bind fun _ _ _ => ?_
  refine (Agrees.word _).next fun _ _ _ => ?_
  refine (targets_agrees w hg).bind fun target target' htarget => ?_
  refine (Agrees.word _).bind fun _ _ _ => ?_
  have hdisjunction := hg.goals w .disjunction
  refine hdisjunction.bind fun source source' hsource => ?_
  exact ((Agrees.word _).after hdisjunction).many.finish fun _ _ hconditions =>
    .cons htarget (.cons hsource hconditions)

theorem comprehension_agrees :
    Agrees w n 1 (Parts w) (comprehension g) (comprehension g') :=
  (comprehensionClause_agrees w hg).many₁.map fun _ _ => parts_flatten

/-! ## Displays -/

/-- Elements each behind a comma. -/
theorem moreElements_agrees :
    Agrees w n 0 (Parts w) (many (sign "," *> starNamedExpression g))
      (many (sign "," *> starNamedExpression g')) :=
  ((Agrees.sign _).after (starNamedExpression_agrees w hg)).many

theorem doubleStarred_agrees : Agrees w n 1 (Parts w) (doubleStarred g) (doubleStarred g') :=
  (Agrees.sign _).next fun _ _ _ => (hg.goals w .bitwiseOr).finish fun _ _ => parts_one

theorem keyValue_agrees : Agrees w n 1 (Parts w) (keyValue g) (keyValue g') := by
  refine (hg.goals w .expression).next fun key key' hkey => ?_
  refine (Agrees.sign _).bind fun _ _ _ => ?_
  exact (hg.goals w .expression).finish fun _ _ hvalue => .cons hkey (parts_one hvalue)

theorem dictionaryRest_agrees {first first' : List Node} (hfirst : Parts w first first') :
    Agrees w n 0 (Parts w) (dictionaryRest g first) (dictionaryRest g' first') := by
  have hentry := (Agrees.sign (w := w) (n := n) ",").after
    ((doubleStarred_agrees w hg).orElse (keyValue_agrees w hg))
  refine hentry.many.bind fun more more' hmore => ?_
  exact (Agrees.sign _).optional.finish fun _ _ _ => List.rel_append hfirst (parts_flatten hmore)

theorem setRest_agrees {first first' : Node} (hfirst : w.NodeMaps first first') :
    Agrees w n 0 (Parts w) (setRest g first) (setRest g' first') := by
  refine (comprehensionNext_agrees w).branch ?_ ?_
  · refine (Agrees.check (by rw [hfirst.form])).bind fun _ _ _ => ?_
    exact (comprehension_agrees w hg).finish fun _ _ hclauses => .cons hfirst hclauses
  · refine (moreElements_agrees w hg).bind fun more more' hmore => ?_
    exact (Agrees.sign _).optional.finish fun _ _ _ => .cons hfirst hmore

theorem bracedPlain_agrees : Agrees w n 0 (Parts w) (bracedPlain g) (bracedPlain g') := by
  refine (hg.goals w .expression).bind fun first first' hfirst => ?_
  refine (Agrees.signNext _).branch ?_ (setRest_agrees w hg hfirst)
  refine (Agrees.sign _).bind fun _ _ _ => ?_
  refine (hg.goals w .expression).bind fun value value' hvalue => ?_
  have hentry : Parts w [first, value] [first', value'] := .cons hfirst (parts_one hvalue)
  refine (comprehensionNext_agrees w).branch ?_ (dictionaryRest_agrees w hg hentry)
  exact (comprehension_agrees w hg).finish fun _ _ hclauses => .cons hfirst (.cons hvalue hclauses)

theorem bracedParts_agrees : Agrees w n 0 (Parts w) (bracedParts g) (bracedParts g') := by
  refine (Agrees.signNext _).branch (.pure .nil) ?_
  refine (Agrees.signNext _).branch ?_ ?_
  · exact (doubleStarred_agrees w hg).bind fun _ _ hfirst => dictionaryRest_agrees w hg hfirst
  refine (Agrees.signNext _).bind fun _ _ hstarred => ?_
  refine (Agrees.nameThenSign _).bind fun _ _ hnamed => ?_
  refine .ite (by rw [hstarred, hnamed]) ?_ (bracedPlain_agrees w hg)
  exact (starNamedExpression_agrees w hg).bind fun _ _ hfirst => setRest_agrees w hg hfirst

/-! ## Slices and arguments -/

theorem slice_agrees : Agrees w n 0 w.NodeMaps (slice g) (slice g') := by
  refine (Agrees.nameThenSign _).branch (namedExpression_agrees w hg).weaken ?_
  have hexpression := (hg.goals w .expression).optional
  refine .compound .other (hexpression.bind fun lower lower' hlower => ?_)
  refine (Agrees.signNext _).branch ?_ ?_
  · refine (Agrees.sign _).bind fun _ _ _ => ?_
    refine hexpression.bind fun upper upper' hupper => ?_
    have hparts : ∀ step step' : Option Node, Option.Rel w.NodeMaps step step' →
        Parts w (lower.toList ++ upper.toList ++ step.toList)
          (lower'.toList ++ upper'.toList ++ step'.toList) := fun _ _ hstep =>
      List.rel_append (List.rel_append (parts_toList hlower) (parts_toList hupper))
        (parts_toList hstep)
    refine (Agrees.signNext _).branch ?_ (.pure (hparts none none .none))
    exact (Agrees.sign _).bind fun _ _ _ => hexpression.finish hparts
  · refine (Agrees.check ?_).finish fun _ _ _ => parts_toList hlower
    cases hlower <;> rfl

theorem starredExpression_agrees :
    Agrees w n 1 w.NodeMaps (starredExpression g) (starredExpression g') :=
  .compound .starred ((Agrees.sign _).next fun _ _ _ =>
    (hg.goals w .expression).finish fun _ _ => parts_one)

theorem slices_agrees : Agrees w n 0 (Parts w) (slices g) (slices g') := by
  have hitem := (Agrees.signNext (w := w) (n := n) "*").branch
    (starredExpression_agrees w hg).weaken (slice_agrees w hg)
  exact hitem.commaTerminated.finish fun _ _ hr => hr.1

omit hg in
/-- The arguments read so far. -/
structure ArgumentsMap (args args' : ArgumentList) : Prop where
  phase : args.phase = args'.phase
  positional : Parts w args.positional args'.positional
  keywords : Parts w args.keywords args'.keywords

theorem argument_agrees {args args' : ArgumentList} (h : ArgumentsMap w args args') :
    Agrees w n 1 (ArgumentsMap w) (argument g args) (argument g' args') := by
  have hkeyword : ∀ phase, Agrees w n 1 (ArgumentsMap w)
      (g .expression >>= fun value =>
        pure { args with phase := phase, keywords := value :: args.keywords })
      (g' .expression >>= fun value =>
        pure { args' with phase := phase, keywords := value :: args'.keywords }) :=
    fun phase => (hg.goals w .expression).map fun _ _ hvalue =>
      ⟨rfl, h.positional, .cons hvalue h.keywords⟩
  refine (Agrees.signNext _).branch ?_ ((Agrees.signNext _).branch ?_
    ((Agrees.nameThenSign _).branch ?_ ?_))
  · refine (Agrees.check (by rw [h.phase])).bind fun _ _ _ => ?_
    exact (starredExpression_agrees w hg).map fun _ _ hn =>
      ⟨h.phase, .cons hn h.positional, h.keywords⟩
  · exact (Agrees.sign _).bind fun _ _ _ => hkeyword .doubleStar
  · refine Agrees.identifier.bind fun _ _ _ => (Agrees.sign _).bind fun _ _ _ => ?_
    rw [h.phase]
    exact hkeyword _
  · refine (Agrees.check (by rw [h.phase])).bind fun _ _ _ => ?_
    exact (namedExpression_agrees w hg).map fun _ _ hn =>
      ⟨h.phase, .cons hn h.positional, h.keywords⟩

theorem argumentsAfter_agrees {first first' : ArgumentList} (h : ArgumentsMap w first first') :
    Agrees w n 0 (ArgumentsMap w) (argumentsAfter g first) (argumentsAfter g' first') := by
  refine Agrees.bind (.extend (fun _ _ hargs => ?_) h) fun _ _ hargs => ?_
  · exact (Agrees.sign _).after (argument_agrees w hg hargs)
  · exact (Agrees.sign _).optional.finish fun _ _ _ => hargs

/-! ## Parameters -/

theorem parameterType_agrees (annotated starred : Bool) :
    Agrees w n 0 (Parts w) (parameterType g annotated starred)
      (parameterType g' annotated starred) := by
  refine (Agrees.signNext _).bind fun _ _ hcolon => .ite (by rw [hcolon]) ?_ (.pure .nil)
  refine (Agrees.sign _).bind fun _ _ _ => ?_
  have hstar : Agrees w n 1 w.NodeMaps (starExpression g) (starExpression g') :=
    (Agrees.signNext _).branch (starredOperand_agrees w hg) (hg.goals w .expression)
  cases starred with
  | true => exact hstar.finish fun _ _ => parts_one
  | false => exact (hg.goals w .expression).finish fun _ _ => parts_one

theorem parameter_agrees (annotated : Bool) (st : ParameterState) :
    Agrees w n 1 (fun r r' => Parts w r.1 r'.1 ∧ r.2 = r'.2) (parameter g annotated st)
      (parameter g' annotated st) := by
  have htype := parameterType_agrees w hg annotated
  refine (Agrees.signNext _).branch ?_ ((Agrees.signNext _).branch ?_
    ((Agrees.signNext _).branch ?_ ?_))
  · refine (Agrees.check rfl).bind fun _ _ _ => ?_
    exact (Agrees.sign _).map fun _ _ _ => ⟨.nil, rfl⟩
  · refine (Agrees.check rfl).bind fun _ _ _ => (Agrees.sign _).next fun _ _ _ => ?_
    exact Agrees.identifier.bind fun _ _ _ => (htype false).finish fun _ _ h => ⟨h, rfl⟩
  · refine (Agrees.check rfl).bind fun _ _ _ => (Agrees.sign _).next fun _ _ _ => ?_
    refine (Agrees.signNext _).branch (.pure ⟨.nil, rfl⟩) ?_
    exact Agrees.identifier.bind fun _ _ _ => (htype true).finish fun _ _ h => ⟨h, rfl⟩
  · refine Agrees.identifier.next fun _ _ _ => (htype false).bind fun _ _ htype => ?_
    refine (Agrees.signNext _).branch ?_ ((Agrees.check rfl).finish fun _ _ _ => ⟨htype, rfl⟩)
    refine (Agrees.sign _).bind fun _ _ _ => (hg.goals w .expression).finish fun _ _ hvalue => ?_
    exact ⟨List.rel_append htype (parts_one hvalue), rfl⟩

end Reach

/-! ## Expressions that begin with a sign -/

variable (hg : Inner n g g')

include hg

theorem parenthesized_agrees :
    Agrees w n 1 w.NodeMaps (parenthesized g) (parenthesized g') := by
  refine Agrees.here.bind fun start start' hstart => ?_
  refine (Agrees.sign _).then fun _ _ _ m hm => ?_
  have hg := hg.reach m hm
  refine (Agrees.signNext _).branch ?_ ((Agrees.wordNext _).branch ?_ ?_)
  · exact (Agrees.sign _).bind fun _ _ _ => .closeAt hstart .tuple .nil
  · refine (yieldExpression_agrees w hg.inner).bind fun _ _ hn => ?_
    exact (Agrees.sign _).finish fun _ _ _ => hn
  refine (starNamedExpression_agrees w hg).bind fun first first' hfirst => ?_
  refine (comprehensionNext_agrees w).branch ?_ ((Agrees.signNext _).branch ?_ ?_)
  · refine (Agrees.check (by rw [hfirst.form])).bind fun _ _ _ => ?_
    refine (comprehension_agrees w hg).bind fun _ _ hclauses => ?_
    exact (Agrees.sign _).bind fun _ _ _ => .closeAt hstart .other (.cons hfirst hclauses)
  · refine (moreElements_agrees w hg).bind fun _ _ hmore => ?_
    refine (Agrees.sign _).optional.bind fun _ _ _ => ?_
    exact (Agrees.sign _).bind fun _ _ _ => .closeAt hstart .tuple (.cons hfirst hmore)
  · refine (Agrees.check (by rw [hfirst.form])).bind fun _ _ _ => ?_
    exact (Agrees.sign _).finish fun _ _ _ => hfirst

theorem bracketed_agrees : Agrees w n 1 w.NodeMaps (bracketed g) (bracketed g') := by
  refine Agrees.here.bind fun start start' hstart => ?_
  refine (Agrees.sign _).then fun _ _ _ m hm => ?_
  have hg := hg.reach m hm
  refine (Agrees.signNext _).branch ?_ ?_
  · exact (Agrees.sign _).bind fun _ _ _ => .closeAt hstart .list .nil
  refine (starNamedExpression_agrees w hg).bind fun first first' hfirst => ?_
  refine (comprehensionNext_agrees w).branch ?_ ?_
  · refine (Agrees.check (by rw [hfirst.form])).bind fun _ _ _ => ?_
    refine (comprehension_agrees w hg).bind fun _ _ hclauses => ?_
    exact (Agrees.sign _).bind fun _ _ _ => .closeAt hstart .other (.cons hfirst hclauses)
  · refine (moreElements_agrees w hg).bind fun _ _ hmore => ?_
    refine (Agrees.sign _).optional.bind fun _ _ _ => ?_
    exact (Agrees.sign _).bind fun _ _ _ => .closeAt hstart .list (.cons hfirst hmore)

theorem braced_agrees : Agrees w n 1 w.NodeMaps (braced g) (braced g') := by
  refine .compound .other ((Agrees.sign _).then fun _ _ _ m hm => ?_)
  refine (bracedParts_agrees w (hg.reach m hm)).bind fun _ _ hparts => ?_
  exact (Agrees.sign _).finish fun _ _ _ => hparts

/-! ## Primaries -/

omit hg in
theorem bind_peek_apply {α : Type} (f : Option Token → Parser α) (s : TokenStream) :
    (peek >>= f) s = f s.rest.head? s := rfl

omit hg in
/-- Where a numeral comes next, any token is a numeral. -/
theorem atom_any_agrees {s s' : TokenStream} (hs : w.StreamMaps s s') (hn : Token.costs s.rest ≤ n)
    (hn' : Token.costs s'.rest ≤ n) (h : ∃ t ∈ s.rest.head?, t.kind = .number)
    (h' : ∃ t ∈ s'.rest.head?, t.kind = .number) :
    Outcome w 1 w.NodeMaps s s' (atom (fun _ => true) s) (atom (fun _ => true) s') := by
  have hnumber : ∀ s : TokenStream, (∃ t ∈ s.rest.head?, t.kind = .number) →
      atom (fun _ => true) s = atom (·.kind == .number) s := by
    rintro ⟨rest, last⟩ ⟨t, ht, hkind⟩
    obtain ⟨ts, rfl⟩ := List.head?_eq_some_iff.1 ht
    unfold atom
    have htoken : token (fun _ => true) ⟨t :: ts, last⟩ =
        token (·.kind == .number) ⟨t :: ts, last⟩ := by simp [token, hkind]
    rw [bind_apply, bind_apply, htoken]
  rw [hnumber s h, hnumber s' h']
  exact Agrees.atom (spelled_kind (k := .number) (by decide)) hs hn hn'

theorem atomic_agrees : Agrees w n 1 w.NodeMaps (atomic g) (atomic g') := by
  intro s s' hs hn hn'
  rw [atomic, atomic, bind_peek_apply, bind_peek_apply]
  have hnext := hs.tokens.next
  obtain ⟨rest, last⟩ := s
  obtain ⟨rest', last'⟩ := s'
  cases hnext with
  | nil => exact .failed
  | @string t t' _ _ kind kind' _ =>
    simp only [List.head?_cons, kind, kind']
    exact stringLiteral_agrees hg hs hn hn'
  | @other t t' _ _ _ token _ =>
    have hsign : ∀ s, isSign t s = isSign t' s := fun s => (spelled_isSign s).same token.alike
    have hidentifier := spelled_isIdentifier.same token.alike
    simp only [List.head?_cons, ← token.kind]
    cases hkind : t.kind with
    | name =>
      refine Agrees.ite hidentifier .nameNode (.atom ?_) hs hn hn'
      exact ((spelled_isWord _).or (spelled_isWord _)).or (spelled_isWord _)
    | number =>
      exact atom_any_agrees w hs hn hn' ⟨t, rfl, hkind⟩ ⟨t', rfl, token.kind ▸ hkind⟩
    | string => exact stringLiteral_agrees hg hs hn hn'
    | sign =>
      refine Agrees.ite (hsign _) (parenthesized_agrees w hg) ?_ hs hn hn'
      refine .ite (hsign _) (bracketed_agrees w hg) (.ite (hsign _) (braced_agrees w hg) ?_)
      exact .atom (spelled_isSign _)
    | newline | indent | dedent | finish => exact .failed

/-- The positional arguments and the values of the keyword arguments. -/
theorem argumentsIn_agrees (allowGenerator : Bool) :
    Agrees w n 1 (fun r r' => Parts w r.1 r'.1 ∧ Parts w r.2 r'.2) (argumentsIn g allowGenerator)
      (argumentsIn g' allowGenerator) := by
  refine Agrees.here.bind fun start start' hstart => ?_
  refine (Agrees.sign _).then fun _ _ _ m hm => ?_
  have hg := hg.reach m hm
  refine (Agrees.signNext _).branch ?_ ?_
  · exact (Agrees.sign _).finish fun _ _ _ => ⟨.nil, .nil⟩
  have hnone : ArgumentsMap w {} {} := ⟨rfl, .nil, .nil⟩
  refine (argument_agrees w hg hnone).bind fun first first' hfirst => ?_
  have hordered : Agrees w m 0 (fun r r' => Parts w r.1 r'.1 ∧ Parts w r.2 r'.2)
      (argumentsAfter g first >>= fun args => sign ")" >>= fun _ =>
        pure (args.positional.reverse, args.keywords.reverse))
      (argumentsAfter g' first' >>= fun args => sign ")" >>= fun _ =>
        pure (args.positional.reverse, args.keywords.reverse)) := by
    refine (argumentsAfter_agrees w hg hfirst).bind fun args args' hargs => ?_
    exact (Agrees.sign _).finish fun _ _ _ =>
      ⟨List.rel_reverse hargs.positional, List.rel_reverse hargs.keywords⟩
  refine (comprehensionNext_agrees w).bind fun generator _ hgenerator => ?_
  subst hgenerator
  obtain ⟨phase, positional, keywords⟩ := first
  obtain ⟨phase', positional', keywords'⟩ := first'
  match positional, positional', generator, hfirst.positional with
  | [element], [element'], true, .cons helement .nil =>
    refine (Agrees.check (by rw [helement.form])).bind fun _ _ _ => ?_
    refine (comprehension_agrees w hg).bind fun _ _ hclauses => ?_
    refine (Agrees.sign _).bind fun _ _ _ => ?_
    exact (Agrees.closeAt hstart .other (.cons helement hclauses)).finish fun _ _ hn =>
      ⟨parts_one hn, .nil⟩
  | [], [], _, .nil => exact hordered
  | [_], [_], false, .cons _ .nil => exact hordered
  | _ :: _ :: _, _ :: _ :: _, _, .cons _ (.cons _ _) => exact hordered

theorem suffix_agrees {start start' : Position} (hstart : w.Maps start start') {e e' : Node}
    (he : w.NodeMaps e e') :
    Agrees w n 1 w.NodeMaps (suffix g start e) (suffix g' start' e') := by
  refine .dispatch fun t t' halike => ?_
  have hsign : ∀ s, isSign t s = isSign t' s := fun s => (spelled_isSign s).same halike
  refine .ite (hsign _) ?_ (.ite (hsign _) ?_ (.ite (hsign _) ?_ .failure))
  · refine (Agrees.sign _).next fun _ _ _ => Agrees.identifier.bind fun _ _ _ => ?_
    exact .closeAt hstart .member (parts_one he)
  · refine (argumentsIn_agrees w hg true).next fun (_, _) (_, _) hr => ?_
    exact Agrees.lastEnd.finish fun _ _ hstop =>
      Rewriting.nodeMaps_call ⟨hstart, hstop⟩ he hr.1 hr.2
  · refine (Agrees.sign _).then fun _ _ _ m hm => ?_
    refine (slices_agrees w (hg.reach m hm)).bind fun _ _ hitems => ?_
    exact (Agrees.sign _).bind fun _ _ _ => .closeAt hstart .subscript (.cons he hitems)

theorem primary_agrees : Agrees w n 1 w.NodeMaps (primary g) (primary g') := by
  refine Agrees.here.bind fun start start' hstart => ?_
  refine (atomic_agrees w hg).next fun _ _ hn => .extend (fun _ _ hn => ?_) hn
  exact suffix_agrees w hg hstart hn

theorem awaited_agrees : Agrees w n 1 w.NodeMaps (awaited g) (awaited g') := by
  refine (Agrees.wordNext _).branch (.compound .other ?_) (primary_agrees w hg)
  exact (Agrees.word _).next fun _ _ _ => (primary_agrees w hg).finish fun _ _ => parts_one

/-! ## Arithmetic and logic -/

theorem power_agrees : Agrees w n 1 w.NodeMaps (power g) (power g') := by
  refine Agrees.here.bind fun start start' hstart => ?_
  refine (awaited_agrees w hg).then fun base base' hbase m hm => ?_
  refine (Agrees.signNext _).branch ((Agrees.sign _).bind fun _ _ _ => ?_) (.pure hbase)
  exact ((hg.reach m hm).goals w .factor).bind fun _ _ hexponent =>
    .closeAt hstart .other (.cons hbase (parts_one hexponent))

theorem factor_agrees : Agrees w n 1 w.NodeMaps (factor g) (factor g') := by
  have hsigns := ((spelled_isSign "+").or (spelled_isSign "-")).or (spelled_isSign "~")
  refine (Agrees.nextIs hsigns.same).branch (.compound .other ?_) (power_agrees w hg)
  exact (Agrees.oneSign _).then fun _ _ _ m hm =>
    ((hg.reach m hm).goals w .factor).finish fun _ _ => parts_one

theorem bitwiseOr_agrees : Agrees w n 1 w.NodeMaps (bitwiseOr g) (bitwiseOr g') := by
  have hterm : Agrees w n 1 w.NodeMaps (term g) (term g') :=
    .chain (.oneSign _) (factor_agrees w hg)
  have hsum : Agrees w n 1 w.NodeMaps (sum g) (sum g') := .chain (.oneSign _) hterm
  have hshift : Agrees w n 1 w.NodeMaps (shift g) (shift g') := .chain (.oneSign _) hsum
  have hand : Agrees w n 1 w.NodeMaps (bitwiseAnd g) (bitwiseAnd g') := .chain (.sign _) hshift
  have hxor : Agrees w n 1 w.NodeMaps (bitwiseXor g) (bitwiseXor g') := .chain (.sign _) hand
  exact .chain (.sign _) hxor

theorem inversion_agrees : Agrees w n 1 w.NodeMaps (inversion g) (inversion g') := by
  have hcomparison : Agrees w n 1 w.NodeMaps (comparison g) (comparison g') :=
    .chain (comparisonOperator_agrees w) (bitwiseOr_agrees w hg)
  refine (Agrees.wordNext _).branch (.compound .other ?_) hcomparison
  exact (Agrees.word _).then fun _ _ _ m hm =>
    ((hg.reach m hm).goals w .inversion).finish fun _ _ => parts_one

theorem disjunction_agrees : Agrees w n 1 w.NodeMaps (disjunction g) (disjunction g') := by
  have hconjunction : Agrees w n 1 w.NodeMaps (conjunction g) (conjunction g') :=
    .chain (.word _) (inversion_agrees w hg)
  exact .chain (.word _) hconjunction

/-! ## Whole expressions -/

omit hg in
/-- A list of parameters does not begin where no token is left. -/
theorem parametersWithin_of_rest_eq_nil (annotated : Bool) (closing : String) (c : List Token)
    (st : ParameterState) {s : TokenStream} (hs : s.rest = []) :
    parametersWithin g annotated closing c st s = none := by
  obtain ⟨rest, last⟩ := s
  obtain rfl : rest = [] := hs
  cases c with
  | nil => rfl
  | cons _ c => rfl

omit hg in
/-- Clocks that are as long as the streams are long enough. -/
theorem parametersWithin_agrees (hg : Reach n g g') (annotated : Bool) (closing : String)
    {c c' : List Token} {s s' : TokenStream} (st : ParameterState) (hs : w.StreamMaps s s')
    (hn : Token.costs s.rest ≤ n) (hn' : Token.costs s'.rest ≤ n) (hc : s.rest.length ≤ c.length)
    (hc' : s'.rest.length ≤ c'.length) :
    Outcome w 0 (Parts w) s s' (parametersWithin g annotated closing c st s)
      (parametersWithin g' annotated closing c' st s') := by
  induction c generalizing c' s s' st with
  | nil =>
    have hnil : s.rest = [] := List.length_eq_zero_iff.1 (Nat.le_zero.1 hc)
    rw [parametersWithin_of_rest_eq_nil _ _ _ _ hnil,
      parametersWithin_of_rest_eq_nil _ _ _ _ (hs.tokens.eq_nil_iff.1 hnil)]
    exact .failed
  | cons x c ih =>
    cases c' with
    | nil =>
      have hnil : s'.rest = [] := List.length_eq_zero_iff.1 (Nat.le_zero.1 hc')
      rw [parametersWithin_of_rest_eq_nil _ _ _ _ hnil,
        parametersWithin_of_rest_eq_nil _ _ _ _ (hs.tokens.eq_nil_iff.2 hnil)]
      exact .failed
    | cons x' c' =>
      -- Only on streams that a parameter has shortened is the clock needed again.
      rw [parametersWithin, parametersWithin]
      refine ((Agrees.signNext closing hs hn hn').bind (j := 0)
        fun closed _ s₁ s₁' hclosed hs₁ hl₁ hl₁' => ?_).mono (Nat.zero_le _)
      have hn₁ := hl₁.costs_le_of_le hn
      have hn₁' := hl₁'.costs_le_of_le hn'
      subst hclosed
      cases closed with
      | true => exact ((Agrees.check rfl).finish fun _ _ _ => .nil) hs₁ hn₁ hn₁'
      | false =>
        refine ((parameter_agrees w hg annotated st hs₁ hn₁ hn₁').bind (j := 0)
          fun (parts, st, final) (parts', _, _) s₂ s₂' ⟨hparts, heq⟩ hs₂ hl₂ hl₂' =>
            ?_).mono (Nat.zero_le _)
        cases heq
        have hn₂ := hl₂.costs_le_of_le hn₁
        have hn₂' := hl₂'.costs_le_of_le hn₁'
        refine ((Agrees.signNext "," hs₂ hn₂ hn₂').bind (j := 0)
          fun comma _ s₃ s₃' hcomma hs₃ hl₃ hl₃' => ?_).mono (Nat.zero_le _)
        have hn₃ := hl₃.costs_le_of_le hn₂
        have hn₃' := hl₃'.costs_le_of_le hn₂'
        subst hcomma
        cases comma with
        | false => exact ((Agrees.check rfl).finish fun _ _ _ => hparts) hs₃ hn₃ hn₃'
        | true =>
          refine ((Agrees.sign "," hs₃ hn₃ hn₃').bind (j := 0)
            fun _ _ s₄ s₄' _ hs₄ hl₄ hl₄' => ?_).mono (Nat.zero_le _)
          have hn₄ := hl₄.costs_le_of_le hn₃
          have hn₄' := hl₄'.costs_le_of_le hn₃'
          cases final with
          | true => exact Agrees.pure hparts hs₄ hn₄ hn₄'
          | false =>
            have hlength := ((hl₁.trans hl₂).trans (hl₃.trans hl₄)).length
            have hlength' := ((hl₁'.trans hl₂').trans (hl₃'.trans hl₄')).length
            rw [List.length_cons] at hc hc'
            refine ((ih st hs₄ hn₄ hn₄' (by omega) (by omega)).bind (j := 0)
              fun more more' s₅ s₅' hmore hs₅ _ _ => ?_).mono (Nat.zero_le _)
            exact .read (List.rel_append hparts hmore) hs₅ (.refl _) (.refl _)

omit hg in
theorem parameters_agrees (hg : Reach n g g') (annotated : Bool) (closing : String) :
    Agrees w n 0 (Parts w) (parameters g annotated closing) (parameters g' annotated closing) :=
  fun _ _ hs hn hn' => parametersWithin_agrees w hg annotated closing {} hs hn hn' (Nat.le_refl _)
    (Nat.le_refl _)

theorem lambda_agrees : Agrees w n 1 w.NodeMaps (lambda g) (lambda g') := by
  refine .compound .other ((Agrees.word _).then fun _ _ _ m hm => ?_)
  have hg := hg.reach m hm
  refine (parameters_agrees w hg false ":").bind fun _ _ hdefaults => ?_
  refine (Agrees.sign _).bind fun _ _ _ => (hg.goals w .expression).finish fun _ _ hn => ?_
  exact List.rel_append hdefaults (parts_one hn)

theorem expression_agrees : Agrees w n 1 w.NodeMaps (expression g) (expression g') := by
  refine (Agrees.wordNext _).branch (lambda_agrees w hg) ?_
  refine Agrees.here.bind fun start start' hstart => ?_
  refine (disjunction_agrees w hg).then fun value value' hvalue m hm => ?_
  have hg := hg.reach m hm
  refine (Agrees.wordNext _).branch ((Agrees.word _).bind fun _ _ _ => ?_) (.pure hvalue)
  refine (disjunction_agrees w hg.inner).bind fun _ _ hcondition => ?_
  refine (Agrees.word _).bind fun _ _ _ => (hg.goals w .expression).bind fun _ _ hotherwise => ?_
  exact .closeAt hstart .other (.cons hvalue (.cons hcondition (parts_one hotherwise)))

omit hg in
/-- Expressions may begin with an expression at once. -/
theorem starExpressions_agrees (hg : Ahead n g g') :
    Agrees w n 1 w.NodeMaps (starExpressions g) (starExpressions g') := by
  refine .tupled ((Agrees.signNext _).branch (.compound .starred ?_) (hg.expression w))
  exact (Agrees.sign _).then fun _ _ _ m hm =>
    ((hg.reach m hm).goals w .bitwiseOr).finish fun _ _ => parts_one

end Parser

end TextDomain
