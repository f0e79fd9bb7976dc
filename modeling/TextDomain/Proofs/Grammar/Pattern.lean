import TextDomain.Proofs.Grammar.Expression

/-!
# Where the calls of patterns lie

The rules of `Source.Grammar.Pattern`. Calls occur in patterns only inside
formatted string literals, and no node of a pattern is an argument, so nothing
is asked of patterns but that the calls in them lie in the text.

## Main results

* `pattern_reads`, `patterns_reads` — the rules for whole patterns.
-/

namespace TextDomain.Parser

open Token (Lexed)
open TokenStream (Advances Follows)

variable {g : Grammar} (hg : Faithful g) (l : Lexed)

/-! ## Literals and names -/

theorem signedNumber_reads : Reads l (Follows l) signedNumber l.Holds := by
  refine .compound ?_
  refine (Reads.sign _).optional.bind fun _ _ => (Reads.ofKind rfl).bind fun real _ => ?_
  refine (Reads.nextIs _).bind fun _ _ => .ite ?_ (.pure (by simp))
  refine (Reads.check _).bind fun _ _ => (Reads.oneSign _).bind fun _ _ => ?_
  refine (Reads.ofKind rfl).bind fun imaginary _ => ?_
  exact (Reads.check _).finish fun _ _ => by simp

theorem captureName_reads : Reads l (Follows l) captureName fun _ => True := by
  refine (Reads.token (solid_isIdentifier.and _)).bind fun _ _ => ?_
  exact (Reads.nextIs _).bind fun _ _ => (Reads.check _).lift.ignore

theorem dottedName_reads : Reads l (Follows l) dottedName fun _ => True := by
  have hmember : Reads l (Advances l) (sign "." *> identifier) fun _ => True :=
    (Reads.sign _).after .identifier
  exact Reads.identifier.bind fun _ _ => hmember.many.finish fun _ _ => trivial

include hg

theorem literalPattern_reads : Reads l (Follows l) (literalPattern g) l.Holds := by
  have hword : Phrase l (atom fun t => isWord t "None" || isWord t "True" || isWord t "False") :=
    .atom (((solid_isWord _).or (solid_isWord _)).or (solid_isWord _))
  refine .dispatch fun t => ?_
  cases t.kind with
  | string => exact (stringLiteral_headed hg l).phrase.reads.lift
  | number => exact signedNumber_reads l
  | sign => exact (Reads.check _).after (signedNumber_reads l)
  | name => exact hword.reads.lift
  | newline | indent | dedent | finish => exact .failure

/-! ## Classes and mappings -/

theorem classArgument_reads (keywords : Bool) :
    Reads l (Follows l) (classArgument g keywords) fun r => ∀ n ∈ r.1, l.Holds n := by
  have hpattern := hg.operand l .pattern nofun
  refine (Reads.nameThenSign _).branch ?_ ?_
  · refine Reads.identifier.bind fun _ _ => (Reads.sign _).bind fun _ _ => ?_
    exact hpattern.finish fun n hn => by simpa using hn
  · exact (Reads.check _).bind fun _ _ => hpattern.finish fun n hn => by simpa using hn

theorem classArguments_reads :
    Reads l (Follows l) (classArguments g) fun ns => ∀ n ∈ ns, l.Holds n := by
  refine (Reads.sign _).bind fun _ _ => (Reads.signNext _).branch ?_ ?_
  · exact (Reads.sign _).finish fun _ _ => by simp
  refine (classArgument_reads hg l false).bind fun first hfirst => ?_
  refine Reads.bind (R := Follows l) (P := fun r => ∀ n ∈ r.1, l.Holds n)
    (.extend (R := Follows l) ?_ hfirst) ?_
  · intro (nodes, keywords) hnodes
    refine (Reads.sign _).bind fun _ _ => (classArgument_reads hg l keywords).finish ?_
    exact fun (more, _) hmore => List.forall_mem_append.2 ⟨hnodes, hmore⟩
  · intro (nodes, _) hnodes
    refine (Reads.sign _).optional.bind fun _ _ => ?_
    exact (Reads.sign _).finish fun _ _ => hnodes

theorem namedPattern_reads : Reads l (Follows l) (namedPattern g) l.Holds := by
  refine .compound ((Reads.nextIs _).branch ?_ ?_)
  · exact (Reads.word _).finish fun _ _ => by simp
  refine (dottedName_reads l).bind fun _ _ => ?_
  refine (Reads.signNext _).branch (classArguments_reads hg l) ?_
  exact (Reads.nextIs _).bind fun _ _ => (Reads.check _).finish fun _ _ => by simp

theorem mappingKey_reads :
    Reads l (Follows l) (mappingKey g) fun ns => ∀ n ∈ ns, l.Holds n := by
  refine (Reads.nextIs _).branch ?_ ?_
  · refine (dottedName_reads l).bind fun _ _ => ?_
    exact (Reads.check _).finish fun _ _ => by simp
  · exact (literalPattern_reads hg l).finish fun n hn => by simpa using hn

theorem mappingEntry_reads :
    Reads l (Follows l) (mappingEntry g) fun ns => ∀ n ∈ ns, l.Holds n := by
  refine (mappingKey_reads hg l).bind fun key hkey => (Reads.sign _).bind fun _ _ => ?_
  refine (hg.operand l .pattern nofun).finish fun n hn => ?_
  exact List.forall_mem_append.2 ⟨hkey, by simpa using hn⟩

theorem mappingEntries_reads :
    Reads l (Follows l) (mappingEntries g) fun ns => ∀ n ∈ ns, l.Holds n := by
  refine (mappingEntry_reads hg l).commaSeparated.optional.bind fun entries hentries => ?_
  cases entries with
  | none =>
    refine (Reads.sign _).bind fun _ _ => ?_
    exact (captureName_reads l).finish fun _ _ => by simp
  | some entries =>
    have hrest : Reads l (Follows l) (sign "," *> sign "**" *> captureName) fun _ => True :=
      ((Reads.sign _).after (.sign _)).after (captureName_reads l)
    exact hrest.optional.finish fun _ _ => holds_flatten l (hentries entries rfl)

theorem mappingPattern_reads : Reads l (Follows l) (mappingPattern g) l.Holds := by
  refine .compound ((Reads.sign _).bind fun _ _ => ?_)
  refine (Reads.signNext _).branch ((Reads.sign _).finish fun _ _ => by simp) ?_
  refine (mappingEntries_reads hg l).bind fun entries hentries => ?_
  refine (Reads.sign _).optional.bind fun _ _ => ?_
  exact (Reads.sign _).finish fun _ _ => hentries

/-! ## Sequences -/

theorem sequenceElement_reads :
    Reads l (Follows l) (sequenceElement g) fun r => l.Holds r.1 := by
  refine (Reads.signNext _).branch ?_ ((hg.operand l .pattern nofun).finish fun _ hn => hn)
  refine Reads.bind (R := Follows l) (.compound ?_) fun n hn => .pure hn
  refine (Reads.sign _).bind fun _ _ => (Reads.nextIs _).bind fun _ _ => .ite ?_ ?_
  · exact (Reads.word _).finish fun _ _ => by simp
  · exact (captureName_reads l).finish fun _ _ => by simp

theorem openSequence_reads {first : Node} (hfirst : l.Holds first) :
    Reads l (Follows l) (openSequence g first) fun ns => ∀ n ∈ ns, l.Holds n := by
  refine (Reads.sign _).bind fun _ _ => ?_
  refine (sequenceElement_reads hg l).commaTerminated.optional.finish fun more hmore => ?_
  refine List.forall_mem_cons.2 ⟨hfirst, ?_⟩
  cases more with
  | none => simp
  | some r => exact List.forall_mem_map.2 (hmore r rfl)

theorem groupPattern_reads : Reads l (Follows l) (groupPattern g) l.Holds := by
  refine Reads.here.bind fun start _ => (Reads.sign _).bind fun _ _ => ?_
  refine (Reads.signNext _).branch ?_ ?_
  · exact (Reads.sign _).bind fun _ _ => .closeAt (by simp)
  refine (sequenceElement_reads hg l).bind fun (first, starred) hfirst => ?_
  refine (Reads.signNext _).branch ?_ ?_
  · refine (openSequence_reads hg l hfirst).bind fun parts hparts => ?_
    exact (Reads.sign _).bind fun _ _ => .closeAt hparts
  · exact (Reads.check _).bind fun _ _ => (Reads.sign _).finish fun _ _ => hfirst

theorem listPattern_reads : Reads l (Follows l) (listPattern g) l.Holds := by
  refine .compound ((Reads.sign _).bind fun _ _ => ?_)
  refine (Reads.signNext _).branch ((Reads.sign _).finish fun _ _ => by simp) ?_
  refine (sequenceElement_reads hg l).commaTerminated.bind fun (elements, _) helements => ?_
  exact (Reads.sign _).finish fun _ _ => List.forall_mem_map.2 helements

/-! ## Whole patterns -/

theorem closedPattern_reads : Reads l (Follows l) (closedPattern g) l.Holds :=
  .dispatch fun _ => .ite (namedPattern_reads hg l) (.ite (groupPattern_reads hg l)
    (.ite (listPattern_reads hg l) (.ite (mappingPattern_reads hg l) (literalPattern_reads hg l))))

theorem pattern_reads : Reads l (Follows l) (pattern g) l.Holds := by
  refine Reads.here.bind fun start _ => ?_
  have halternatives : Reads l (Follows l) (chain (sign "|") (closedPattern g)) l.Holds :=
    .chain (Reads.sign _).lift (closedPattern_reads hg l)
  refine halternatives.bind fun n hn => ?_
  refine (Reads.wordNext _).branch ((Reads.word _).bind fun _ _ => ?_) (.pure hn)
  exact (captureName_reads l).bind fun _ _ => .closeAt (by simpa using hn)

theorem patterns_reads : Reads l (Follows l) (patterns g) l.Holds := by
  refine Reads.here.bind fun start _ => ?_
  refine (sequenceElement_reads hg l).bind fun (first, starred) hfirst => ?_
  refine (Reads.signNext _).branch ?_ ((Reads.check _).finish fun _ _ => hfirst)
  exact (openSequence_reads hg l hfirst).bind fun parts hparts => .closeAt hparts

end TextDomain.Parser
