import TextDomain.Proofs.Rewriting.Expression

/-!
# Patterns that are read alike

One lemma for each rule of `Source.Grammar.Pattern`, over two grammars for the phrases
inside.

## Main results

* `pattern_agrees`, `patterns_agrees` — the rules for patterns.
-/

namespace TextDomain

namespace Parser

variable {g g' : Grammar} {n : Nat} (w : Rewriting)

/-! ## Literals and names -/

theorem spelled_extendsName : Spelled extendsName :=
  ((spelled_isSign ".").or (spelled_isSign "(")).or (spelled_isSign "=")

theorem signedNumber_agrees : Agrees w n 1 w.NodeMaps signedNumber signedNumber := by
  refine .compound .other ((Agrees.sign _).optional.bind fun _ _ _ => ?_)
  refine (Agrees.ofKind (k := .number) (by decide)).next fun real real' hreal => ?_
  refine (Agrees.nextIs ((spelled_isSign "+").or (spelled_isSign "-")).same).branch ?_ (.pure .nil)
  refine (Agrees.check (by rw [hreal.text])).bind fun _ _ _ => ?_
  refine (Agrees.oneSign _).bind fun _ _ _ => ?_
  refine (Agrees.ofKind (k := .number) (by decide)).bind fun imaginary imaginary' himaginary => ?_
  exact (Agrees.check (by rw [himaginary.text])).finish fun _ _ _ => .nil

theorem literalPattern_agrees (hg : Inner n g g') :
    Agrees w n 1 w.NodeMaps (literalPattern g) (literalPattern g') := by
  refine .dispatch fun t t' halike => ?_
  rw [← halike.kind]
  cases t.kind with
  | string => exact stringLiteral_agrees hg
  | number => exact signedNumber_agrees w
  | sign => exact (Agrees.check ((spelled_isSign "-").same halike)).bind fun _ _ _ =>
      signedNumber_agrees w
  | name => exact .atom (((spelled_isWord _).or (spelled_isWord _)).or (spelled_isWord _))
  | newline | indent | dedent | finish => exact .failure

theorem captureName_agrees : Agrees w n 1 Eq captureName captureName := by
  refine (Agrees.token (spelled_isIdentifier.and_not (spelled_isWord "_"))).next fun _ _ _ => ?_
  refine (Agrees.nextIs spelled_extendsName.same).bind fun _ _ h => ?_
  exact (Agrees.check (congrArg not h)).imp fun _ _ _ => rfl

theorem dottedName_agrees : Agrees w n 1 Eq dottedName dottedName := by
  refine Agrees.identifier.next fun _ _ _ => ?_
  exact ((Agrees.sign _).after Agrees.identifier).many.finish fun _ _ h => h.length_eq

/-! ## Classes and mappings -/

section Reach

variable (hg : Reach n g g')

include hg

theorem classArgument_agrees (keywords : Bool) :
    Agrees w n 1 (fun r r' => Parts w r.1 r'.1 ∧ r.2 = r'.2) (classArgument g keywords)
      (classArgument g' keywords) := by
  refine (Agrees.nameThenSign _).branch ?_ ((Agrees.check rfl).bind fun _ _ _ => ?_)
  · refine Agrees.identifier.bind fun _ _ _ => (Agrees.sign _).bind fun _ _ _ => ?_
    exact (hg.goals w .pattern).map fun _ _ hn => ⟨parts_one hn, rfl⟩
  · exact (hg.goals w .pattern).map fun _ _ hn => ⟨parts_one hn, rfl⟩

theorem classArguments_agrees :
    Agrees w n 1 (Parts w) (classArguments g) (classArguments g') := by
  refine (Agrees.sign _).next fun _ _ _ => (Agrees.signNext _).branch ?_ ?_
  · exact (Agrees.sign _).finish fun _ _ _ => .nil
  refine (classArgument_agrees w hg false).bind fun first first' hfirst => ?_
  refine Agrees.bind (Agrees.extend (V := fun r r' => Parts w r.1 r'.1 ∧ r.2 = r'.2) ?_ hfirst)
    fun (nodes, _) (nodes', _) hnodes => ?_
  · rintro ⟨nodes, keywords⟩ ⟨nodes', _⟩ ⟨hnodes, rfl⟩
    refine (Agrees.sign _).next fun _ _ _ => ?_
    exact (classArgument_agrees w hg keywords).finish fun _ _ hr =>
      ⟨List.rel_append hnodes hr.1, hr.2⟩
  · refine (Agrees.sign _).optional.bind fun _ _ _ => ?_
    exact (Agrees.sign _).finish fun _ _ _ => hnodes.1

theorem mappingKey_agrees : Agrees w n 1 (Parts w) (mappingKey g) (mappingKey g') := by
  refine (Agrees.nextIs spelled_isIdentifier.same).branch ?_ ?_
  · refine (dottedName_agrees w).next fun members members' hmembers => ?_
    exact (Agrees.check (by rw [hmembers])).finish fun _ _ _ => .nil
  · exact (literalPattern_agrees w hg.inner).map fun _ _ => parts_one

theorem mappingEntry_agrees : Agrees w n 1 (Parts w) (mappingEntry g) (mappingEntry g') := by
  refine (mappingKey_agrees w hg).next fun key key' hkey => (Agrees.sign _).bind fun _ _ _ => ?_
  exact (hg.goals w .pattern).finish fun _ _ hn => List.rel_append hkey (parts_one hn)

theorem mappingEntries_agrees :
    Agrees w n 0 (Parts w) (mappingEntries g) (mappingEntries g') := by
  refine (mappingEntry_agrees w hg).commaSeparated.optional.bind fun entries? entries?' h => ?_
  cases h with
  | none =>
    refine (Agrees.sign _).bind fun _ _ _ => ?_
    exact (captureName_agrees w).finish fun _ _ _ => .nil
  | some hentries =>
    have hrest := ((Agrees.sign (w := w) (n := n) ",").after (Agrees.sign "**")).after
      (captureName_agrees w)
    exact hrest.optional.finish fun _ _ _ => parts_flatten hentries

/-! ## Sequences -/

theorem sequenceElement_agrees :
    Agrees w n 1 (fun r r' => w.NodeMaps r.1 r'.1 ∧ r.2 = r'.2) (sequenceElement g)
      (sequenceElement g') := by
  refine (Agrees.signNext _).branch ?_ ((hg.goals w .pattern).map fun _ _ hn => ⟨hn, rfl⟩)
  refine Agrees.map (.compound .starred ((Agrees.sign _).next fun _ _ _ => ?_)) fun _ _ hn =>
    ⟨hn, rfl⟩
  refine (Agrees.nextIs (spelled_isWord _).same).branch ?_ ?_
  · exact (Agrees.word _).finish fun _ _ _ => .nil
  · exact (captureName_agrees w).finish fun _ _ _ => .nil

omit hg in
theorem parts_elements {rs rs' : List (Node × Bool)}
    (h : List.Forall₂ (fun r r' => w.NodeMaps r.1 r'.1 ∧ r.2 = r'.2) rs rs') :
    Parts w (rs.map (·.1)) (rs'.map (·.1)) :=
  List.rel_map (fun _ _ hr => hr.1) h

theorem openSequence_agrees {first first' : Node} (hfirst : w.NodeMaps first first') :
    Agrees w n 1 (Parts w) (openSequence g first) (openSequence g' first') := by
  refine (Agrees.sign _).next fun _ _ _ => ?_
  refine (sequenceElement_agrees w hg).commaTerminated.optional.finish fun more? more?' h => ?_
  refine .cons hfirst (parts_elements w ?_)
  cases h with
  | none => exact .nil
  | some h => exact h.1

/-! ## Whole patterns -/

theorem patterns_agrees : Agrees w n 1 w.NodeMaps (patterns g) (patterns g') := by
  refine Agrees.here.bind fun start start' hstart => ?_
  refine (sequenceElement_agrees w hg).next fun (first, starred) (first', _) ⟨hfirst, heq⟩ => ?_
  cases heq
  refine (Agrees.signNext _).branch ?_ ((Agrees.check rfl).finish fun _ _ _ => hfirst)
  exact (openSequence_agrees w hg hfirst).bind fun _ _ hparts => .closeAt hstart .other hparts

end Reach

variable (hg : Inner n g g')

include hg

theorem namedPattern_agrees : Agrees w n 1 w.NodeMaps (namedPattern g) (namedPattern g') := by
  refine .compound .other ((Agrees.nextIs (spelled_isWord _).same).branch ?_ ?_)
  · exact (Agrees.word _).map fun _ _ _ => .nil
  refine (dottedName_agrees w).then fun _ _ _ m hm => ?_
  refine (Agrees.signNext _).branch (classArguments_agrees w (hg.reach m hm)).weaken ?_
  refine (Agrees.nextIs spelled_extendsName.same).bind fun _ _ h => ?_
  exact (Agrees.check (by rw [h])).finish fun _ _ _ => .nil

theorem mappingPattern_agrees :
    Agrees w n 1 w.NodeMaps (mappingPattern g) (mappingPattern g') := by
  refine .compound .other ((Agrees.sign _).then fun _ _ _ m hm => ?_)
  refine (Agrees.signNext _).branch ?_ ?_
  · exact (Agrees.sign _).finish fun _ _ _ => .nil
  refine (mappingEntries_agrees w (hg.reach m hm)).bind fun _ _ hentries => ?_
  refine (Agrees.sign _).optional.bind fun _ _ _ => ?_
  exact (Agrees.sign _).finish fun _ _ _ => hentries

theorem listPattern_agrees : Agrees w n 1 w.NodeMaps (listPattern g) (listPattern g') := by
  refine .compound .other ((Agrees.sign _).then fun _ _ _ m hm => ?_)
  have hg := hg.reach m hm
  refine (Agrees.signNext _).branch ?_ ?_
  · exact (Agrees.sign _).finish fun _ _ _ => .nil
  refine (sequenceElement_agrees w hg).commaTerminated.bind fun (elements, _) (elements', _) h => ?_
  exact (Agrees.sign _).finish fun _ _ _ => parts_elements w h.1

theorem groupPattern_agrees : Agrees w n 1 w.NodeMaps (groupPattern g) (groupPattern g') := by
  refine Agrees.here.bind fun start start' hstart => ?_
  refine (Agrees.sign _).then fun _ _ _ m hm => ?_
  have hg := hg.reach m hm
  refine (Agrees.signNext _).branch ?_ ?_
  · exact (Agrees.sign _).bind fun _ _ _ => .closeAt hstart .other .nil
  refine (sequenceElement_agrees w hg).bind fun (first, starred) (first', _) ⟨hfirst, heq⟩ => ?_
  cases heq
  refine (Agrees.signNext _).branch ?_ ((Agrees.check rfl).bind fun _ _ _ => ?_)
  · refine (openSequence_agrees w hg hfirst).bind fun _ _ hparts => ?_
    exact (Agrees.sign _).bind fun _ _ _ => .closeAt hstart .other hparts
  · exact (Agrees.sign _).finish fun _ _ _ => hfirst

theorem closedPattern_agrees : Agrees w n 1 w.NodeMaps (closedPattern g) (closedPattern g') := by
  refine .dispatch fun t t' halike => ?_
  have hsign : ∀ s, isSign t s = isSign t' s := fun s => (spelled_isSign s).same halike
  refine .ite (spelled_isIdentifier.same halike) (namedPattern_agrees w hg) ?_
  refine .ite (hsign _) (groupPattern_agrees w hg) (.ite (hsign _) ?_ (.ite (hsign _) ?_ ?_))
  · exact listPattern_agrees w hg
  · exact mappingPattern_agrees w hg
  · exact literalPattern_agrees w hg

theorem pattern_agrees : Agrees w n 1 w.NodeMaps (pattern g) (pattern g') := by
  refine Agrees.here.bind fun start start' hstart => ?_
  refine Agrees.next (.chain (.sign _) (closedPattern_agrees w hg)) fun _ _ hn => ?_
  refine (Agrees.wordNext _).branch ((Agrees.word _).bind fun _ _ _ => ?_) (.pure hn)
  exact (captureName_agrees w).bind fun _ _ _ => .closeAt hstart .other (parts_one hn)

end Parser

end TextDomain
