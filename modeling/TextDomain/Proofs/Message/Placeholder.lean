import Mathlib.Data.List.TakeWhile
import TextDomain.Message

/-!
# Placeholders

A placeholder is found by looking for the first brace behind its body, and its
name by trimming the body. Both can be said without a way to find them: a body
has no braces, and a name is what is left of it between blanks, or the last
blank if there is nothing else.

A third account is that of a pattern that tries: two opening braces, as many
blanks as possible, as few other characters as possible for a name, again as
many blanks as possible, and two closing braces. Wherever it fails it goes back
to its latest choice. The first way that leads to the end is the one that is
taken. It has the name that trimming has, also for a body of blanks, where the
first run of blanks has to give one back.

## Main results

* `placeholder?_eq_some_iff` — what begins with a placeholder.
* `isName_iff` — the name in a body is found by trimming.
* `head?_readings_eq_some_iff` — the first reading of the pattern is the placeholder
  with this name.
-/

namespace TextDomain.Template

/-! ## Bodies -/

/-- A text that may stand between the braces of a placeholder. -/
structure IsBody (body : Text) : Prop where
  /-- There is something. -/
  nonempty : body ≠ []
  /-- There is no brace in it. -/
  braceless : ∀ c ∈ body, c ≠ '{' ∧ c ≠ '}'

/-- The placeholder with a body. -/
def placeholder (body : Text) : Text := '{' :: '{' :: body ++ ['}', '}']

theorem isBodyChar_iff {c : Char} : isBodyChar c = true ↔ c ≠ '{' ∧ c ≠ '}' := by
  simp [isBodyChar]

theorem IsBody.isBodyChar {body : Text} (h : IsBody body) : ∀ c ∈ body, isBodyChar c = true :=
  fun c hc => isBodyChar_iff.2 (h.braceless c hc)

/-- The placeholder at the beginning of a text is found if there is one. -/
theorem placeholder?_eq_some_iff {t body : Text} :
    placeholder? t = some body ↔ IsBody body ∧ ∃ rest, t = placeholder body ++ rest := by
  constructor
  · intro h
    unfold placeholder? at h
    split at h
    next rest =>
      dsimp only at h
      split at h
      next hfound =>
        obtain rfl := Option.some.inj h
        obtain ⟨hnonempty, hcloses⟩ := Bool.and_eq_true_iff.1 hfound
        obtain ⟨more, hmore⟩ := List.isPrefixOf_iff_prefix.1 hcloses
        refine ⟨⟨?_, ?_⟩, more, ?_⟩
        · intro hnil
          simp [hnil] at hnonempty
        · intro c hc
          exact isBodyChar_iff.1 (List.mem_takeWhile_imp hc)
        · have hsplit := List.takeWhile_append_dropWhile (p := isBodyChar) (l := rest)
          rw [← hmore] at hsplit
          simpa [placeholder] using hsplit.symm
      next => cases h
    next => cases h
  · rintro ⟨hbody, rest, rfl⟩
    have htake : (body ++ '}' :: '}' :: rest).takeWhile isBodyChar = body := by
      rw [List.takeWhile_append_of_pos hbody.isBodyChar, List.takeWhile_cons_of_neg (by decide),
        List.append_nil]
    have hdrop : (body ++ '}' :: '}' :: rest).dropWhile isBodyChar = '}' :: '}' :: rest := by
      rw [List.dropWhile_append_of_pos hbody.isBodyChar, List.dropWhile_cons_of_neg (by decide)]
    have hplaceholder : placeholder body ++ rest = '{' :: '{' :: (body ++ '}' :: '}' :: rest) := by
      simp [placeholder]
    rw [hplaceholder]
    simp [placeholder?, htake, hdrop, hbody.nonempty, Text.startsWith]

/-! ## Names -/

/-- All characters of a text are blank. -/
def IsBlank (t : Text) : Prop := ∀ c ∈ t, Text.isBlank c = true

/-- `IsName body name`: the placeholder with this body has this name. -/
inductive IsName : Text → Text → Prop where
  /-- The name begins and ends with characters that are not blank, and has blanks only around
  it. -/
  | trimmed {before name after : Text} {first last : Char} (hbefore : IsBlank before)
      (hafter : IsBlank after) (hhead : name.head? = some first)
      (hfirst : Text.isBlank first = false) (hlast? : name.getLast? = some last)
      (hlast : Text.isBlank last = false) : IsName (before ++ name ++ after) name
  /-- All is blank, and the name is the last of the blanks. -/
  | blank {before : Text} {c : Char} (hbefore : IsBlank before) (hc : Text.isBlank c = true) :
      IsName (before ++ [c]) [c]

theorem strip_of_isBlank {t : Text} (h : IsBlank t) : Text.strip t = [] := by
  have hall : t.dropWhile Text.isBlank = [] := List.dropWhile_eq_nil_iff.2 h
  simp [Text.strip, hall]

theorem dropWhile_eq_self_of_head? {t : Text} {first : Char} (h : t.head? = some first)
    (hfirst : Text.isBlank first = false) : t.dropWhile Text.isBlank = t := by
  cases t with
  | nil => rfl
  | cons c rest =>
    obtain rfl := Option.some.inj h
    exact List.dropWhile_cons_of_neg (by simp [hfirst])

theorem strip_between {before name after : Text} {first last : Char} (hbefore : IsBlank before)
    (hafter : IsBlank after) (hhead : name.head? = some first)
    (hfirst : Text.isBlank first = false) (hlast? : name.getLast? = some last)
    (hlast : Text.isBlank last = false) : Text.strip (before ++ name ++ after) = name := by
  have hleft : (before ++ name ++ after).dropWhile Text.isBlank = name ++ after := by
    rw [List.append_assoc, List.dropWhile_append_of_pos hbefore]
    refine dropWhile_eq_self_of_head? ?_ hfirst
    rw [List.head?_append, hhead]
    rfl
  have hright : (name ++ after).reverse.dropWhile Text.isBlank = name.reverse := by
    rw [List.reverse_append,
      List.dropWhile_append_of_pos fun c hc => hafter c (List.mem_reverse.1 hc)]
    refine dropWhile_eq_self_of_head? ?_ hlast
    rw [List.head?_reverse, hlast?]
  rw [Text.strip, hleft, hright, List.reverse_reverse]

theorem IsName.nameOf_eq {body name : Text} (h : IsName body name) : nameOf body = name := by
  cases h with
  | @trimmed before _ after first last hbefore hafter hhead hfirst hlast? hlast =>
    rw [nameOf, strip_between hbefore hafter hhead hfirst hlast? hlast]
    cases name with
    | nil => cases hhead
    | cons c rest => rfl
  | @blank before c hbefore hc =>
    have hall : IsBlank (before ++ [c]) := by
      intro c' hc'
      rcases List.mem_append.1 hc' with hc' | hc'
      · exact hbefore c' hc'
      · rw [List.mem_singleton.1 hc']
        exact hc
    rw [nameOf, strip_of_isBlank hall]
    simp

/-- A text that is not blank has a first character that is not. -/
theorem exists_first_of_not_isBlank {t : Text} (h : ¬ IsBlank t) :
    ∃ before first rest, IsBlank before ∧ Text.isBlank first = false ∧
      t = before ++ first :: rest := by
  have hsplit := List.takeWhile_append_dropWhile (p := Text.isBlank) (l := t)
  have hbefore : IsBlank (t.takeWhile Text.isBlank) := fun c hc => List.mem_takeWhile_imp hc
  cases hdrop : t.dropWhile Text.isBlank with
  | nil => exact absurd (List.dropWhile_eq_nil_iff.1 hdrop) h
  | cons first rest =>
    have hfirst := List.head?_dropWhile_not Text.isBlank t
    rw [hdrop] at hsplit hfirst
    exact ⟨_, first, rest, hbefore, hfirst, hsplit.symm⟩

/-- It has a last one as well. -/
theorem exists_last_of_not_isBlank {t : Text} (h : ¬ IsBlank t) :
    ∃ before last after, IsBlank after ∧ Text.isBlank last = false ∧
      t = before ++ last :: after := by
  have hreverse : ¬ IsBlank t.reverse := fun h' => h fun c hc => h' c (List.mem_reverse.2 hc)
  obtain ⟨after, last, before, hafter, hlast, ht⟩ := exists_first_of_not_isBlank hreverse
  refine ⟨before.reverse, last, after.reverse,
    fun c hc => hafter c (List.mem_reverse.1 hc), hlast, ?_⟩
  rw [← List.reverse_reverse t, ht]
  simp

/-- So there is a name in it, with blanks only around it. -/
theorem exists_isName_of_not_isBlank {t : Text} (h : ¬ IsBlank t) : ∃ name, IsName t name := by
  obtain ⟨before, first, rest, hbefore, hfirst, rfl⟩ := exists_first_of_not_isBlank h
  have hrest : ¬ IsBlank (first :: rest) := by
    intro hblank
    have hfirst' := hblank first List.mem_cons_self
    rw [hfirst] at hfirst'
    cases hfirst'
  obtain ⟨inner, last, after, hafter, hlast, heq⟩ := exists_last_of_not_isBlank hrest
  have hhead : (inner ++ [last]).head? = some first := by
    cases inner with
    | nil => rw [(List.cons.inj heq).1]; rfl
    | cons c cs => rw [(List.cons.inj heq).1]; rfl
  refine ⟨inner ++ [last], ?_⟩
  have hsplit : before ++ first :: rest = before ++ (inner ++ [last]) ++ after := by
    rw [heq]
    simp
  rw [hsplit]
  exact .trimmed hbefore hafter hhead hfirst (by simp) hlast

/-- The name in a body is found by trimming. -/
theorem isName_iff {body name : Text} (h : body ≠ []) : IsName body name ↔ nameOf body = name := by
  have hexists : ∃ name, IsName body name := by
    by_cases hblank : IsBlank body
    · obtain ⟨before, c, rfl⟩ : ∃ before c, body = before ++ [c] :=
        ⟨_, _, (List.dropLast_concat_getLast h).symm⟩
      exact ⟨[c], .blank (fun c' hc' => hblank c' (List.mem_append_left _ hc'))
        (hblank c (by simp))⟩
    · exact exists_isName_of_not_isBlank hblank
  constructor
  · exact IsName.nameOf_eq
  · rintro rfl
    obtain ⟨name, hname⟩ := hexists
    rw [hname.nameOf_eq]
    exact hname

/-! ## A pattern that tries

The ways to go on come in the order in which they are tried. -/

/-- What is left of a text behind a run of characters of a class, the longest run first. -/
def behindRun (p : Char → Bool) : Text → List Text
  | [] => [[]]
  | c :: rest => if p c then behindRun p rest ++ [c :: rest] else [c :: rest]

/-- The runs of at least one character of a class, each with what is left of the text, the
shortest run first. -/
def someRun (p : Char → Bool) : Text → List (Text × Text)
  | [] => []
  | c :: rest =>
    if p c then ([c], rest) :: (someRun p rest).map (Prod.map (c :: ·) id) else []

/-- What is left behind two closing braces. -/
def behindClosing? : Text → Option Text
  | '}' :: '}' :: rest => some rest
  | _ => none

/-- What may be left behind a name: blanks and two closing braces are passed over. -/
def closings (t : Text) : List Text := (behindRun Text.isBlank t).filterMap behindClosing?

/-- The names at the beginning of a text, each with what may be left behind it. -/
def namings (t : Text) : List (Text × Text) :=
  (someRun isBodyChar t).flatMap fun run => (closings run.2).map (Prod.mk run.1)

/-- The names of a placeholder at the beginning of a text, each with what may be left behind
the placeholder. -/
def readings : Text → List (Text × Text)
  | '{' :: '{' :: rest => (behindRun Text.isBlank rest).flatMap namings
  | _ => []

variable {p : Char → Bool} {t rest name : Text}

theorem exists_run_of_mem_behindRun (h : rest ∈ behindRun p t) :
    ∃ run : Text, (∀ c ∈ run, p c = true) ∧ t = run ++ rest := by
  induction t with
  | nil =>
    rw [behindRun, List.mem_singleton] at h
    exact ⟨[], by simp, by simp [h]⟩
  | cons c t ih =>
    simp only [behindRun] at h
    split at h
    next hc =>
      rcases List.mem_append.1 h with h | h
      · obtain ⟨run, hrun, rfl⟩ := ih h
        refine ⟨c :: run, ?_, rfl⟩
        simpa [hc] using hrun
      · exact ⟨[], by simp, (List.mem_singleton.1 h).symm⟩
    next => exact ⟨[], by simp, (List.mem_singleton.1 h).symm⟩

/-- What is left behind a longer run comes first. -/
theorem behindRun_prefix {run : Text} (h : ∀ c ∈ run, p c = true) (t : Text) :
    behindRun p t <+: behindRun p (run ++ t) := by
  induction run with
  | nil => exact List.prefix_refl _
  | cons c run ih =>
    obtain ⟨hc, hrun⟩ := List.forall_mem_cons.1 h
    rw [List.cons_append, behindRun, if_pos hc]
    exact (ih hrun).trans (List.prefix_append _ _)

theorem behindRun_cons_of_neg {c : Char} (h : p c = false) (t : Text) :
    behindRun p (c :: t) = [c :: t] := by
  rw [behindRun, if_neg (by simp [h])]

theorem of_mem_someRun {run : Text × Text} (h : run ∈ someRun p t) :
    run.1 ≠ [] ∧ (∀ c ∈ run.1, p c = true) ∧ t = run.1 ++ run.2 := by
  induction t generalizing run with
  | nil => cases h
  | cons c t ih =>
    simp only [someRun] at h
    split at h
    next hc =>
      rcases List.mem_cons.1 h with rfl | h
      · simp [hc]
      · obtain ⟨run', hrun', rfl⟩ := List.mem_map.1 h
        obtain ⟨-, hclass, rfl⟩ := ih hrun'
        refine ⟨List.cons_ne_nil _ _, ?_, rfl⟩
        simpa [hc] using hclass
    next => cases h

/-- A run comes behind those that are shorter. -/
theorem exists_someRun_append (hne : name ≠ []) (h : ∀ c ∈ name, p c = true) (t : Text) :
    ∃ before after, someRun p (name ++ t) = before ++ (name, t) :: after ∧
      ∀ run ∈ before, ∃ u v, u ≠ [] ∧ v ≠ [] ∧ name = u ++ v ∧ run = (u, v ++ t) := by
  induction name with
  | nil => exact absurd rfl hne
  | cons c name ih =>
    obtain ⟨hc, hname⟩ := List.forall_mem_cons.1 h
    rw [List.cons_append, someRun, if_pos hc]
    cases name with
    | nil => exact ⟨[], _, rfl, by simp⟩
    | cons d name =>
      obtain ⟨before, after, hruns, hbefore⟩ := ih (List.cons_ne_nil d name) hname
      refine ⟨([c], d :: name ++ t) :: before.map (Prod.map (c :: ·) id),
        after.map (Prod.map (c :: ·) id), ?_, ?_⟩
      · rw [hruns, List.map_append, List.map_cons]
        rfl
      intro run hrun
      rcases List.mem_cons.1 hrun with rfl | hrun
      · exact ⟨[c], d :: name, by simp, by simp, rfl, rfl⟩
      · obtain ⟨run', hrun', rfl⟩ := List.mem_map.1 hrun
        obtain ⟨u, v, -, hv, heq, rfl⟩ := hbefore run' hrun'
        exact ⟨c :: u, v, by simp, hv, by rw [heq, List.cons_append], rfl⟩

theorem behindClosing?_eq_some_iff {rest' : Text} :
    behindClosing? rest = some rest' ↔ rest = '}' :: '}' :: rest' := by
  constructor
  · intro h
    unfold behindClosing? at h
    split at h
    next => rw [Option.some.inj h]
    next => cases h
  · rintro rfl
    rfl

/-- Blanks up to the closing braces are passed over. -/
theorem head?_closings {blanks : Text} (h : IsBlank blanks) (rest : Text) :
    (closings (blanks ++ '}' :: '}' :: rest)).head? = some rest := by
  obtain ⟨more, hmore⟩ := behindRun_prefix h ('}' :: '}' :: rest)
  rw [behindRun_cons_of_neg (by decide)] at hmore
  rw [closings, ← hmore]
  rfl

/-- Something else than blanks is not passed over. -/
theorem closings_eq_nil {body : Text} (hbody : ∀ c ∈ body, isBodyChar c = true)
    (hblank : ¬ IsBlank body) (rest : Text) : closings (body ++ '}' :: '}' :: rest) = [] := by
  rw [List.eq_nil_iff_forall_not_mem]
  intro rest' hmem
  obtain ⟨left, hleft, hclosing⟩ := List.mem_filterMap.1 hmem
  obtain rfl := behindClosing?_eq_some_iff.1 hclosing
  obtain ⟨run, hrun, heq⟩ := exists_run_of_mem_behindRun hleft
  -- Both the run and the body end at the first closing brace.
  have hopen : ∀ u : Text, (∀ c ∈ u, c ≠ '}') → ∀ v,
      (u ++ '}' :: v).takeWhile (fun c => decide (c ≠ '}')) = u := by
    intro u hu v
    rw [List.takeWhile_append_of_pos (by simpa using hu), List.takeWhile_cons_of_neg (by simp),
      List.append_nil]
  have hbody' : ∀ c ∈ body, c ≠ '}' := fun c hc => (isBodyChar_iff.1 (hbody c hc)).2
  have hrun' : ∀ c ∈ run, c ≠ '}' := by
    rintro c hc rfl
    exact absurd (hrun _ hc) (by decide)
  have hsame := congrArg (List.takeWhile fun c => decide (c ≠ '}')) heq
  rw [hopen body hbody', hopen run hrun'] at hsame
  exact hblank (hsame ▸ hrun)

theorem head?_flatMap_of_head? {α β : Type} {f : α → List β} {before after : List α} {x : α} {b : β}
    (hbefore : ∀ y ∈ before, f y = []) (hx : (f x).head? = some b) :
    ((before ++ x :: after).flatMap f).head? = some b := by
  have hnone : before.flatMap f = [] := List.flatMap_eq_nil_iff.2 hbefore
  rw [List.flatMap_append, hnone, List.flatMap_cons, List.nil_append, List.head?_append, hx]
  rfl

/-- The shortest name up to blanks and closing braces is taken, if what is left over of it by any
shorter one is not blank. -/
theorem head?_namings {after : Text} (hne : name ≠ []) (hname : ∀ c ∈ name, isBodyChar c = true)
    (hafter : IsBlank after) (hbody : ∀ c ∈ after, isBodyChar c = true)
    (hshort : ∀ u v, u ≠ [] → v ≠ [] → name = u ++ v → ¬ IsBlank v) (rest : Text) :
    (namings (name ++ (after ++ '}' :: '}' :: rest))).head? = some (name, rest) := by
  obtain ⟨before, more, hruns, hbefore⟩ :=
    exists_someRun_append hne hname (after ++ '}' :: '}' :: rest)
  rw [namings, hruns]
  apply head?_flatMap_of_head?
  · intro run hrun
    obtain ⟨u, v, hu, hv, rfl, rfl⟩ := hbefore run hrun
    have hleft : ¬ IsBlank (v ++ after) :=
      fun h => hshort u v hu hv rfl fun c hc => h c (List.mem_append_left _ hc)
    have hclass : ∀ c ∈ v ++ after, isBodyChar c = true := by
      intro c hc
      rcases List.mem_append.1 hc with hc | hc
      · exact hname c (List.mem_append_right _ hc)
      · exact hbody c hc
    simp only [← List.append_assoc]
    rw [closings_eq_nil hclass hleft, List.map_nil]
  · rw [List.head?_map, head?_closings hafter]
    rfl

theorem namings_closing (rest : Text) : namings ('}' :: rest) = [] := rfl

/-- If the name has no blanks at its ends, the first run of blanks ends at the name, and there is
no other choice before it. -/
theorem head?_namings_trimmed {before after : Text} {first last : Char}
    (hclass : ∀ c ∈ before ++ name ++ after, isBodyChar c = true) (hbefore : IsBlank before)
    (hafter : IsBlank after) (hhead : name.head? = some first)
    (hfirst : Text.isBlank first = false) (hlast? : name.getLast? = some last)
    (hlast : Text.isBlank last = false) (rest : Text) :
    ((behindRun Text.isBlank (before ++ name ++ after ++ '}' :: '}' :: rest)).flatMap
      namings).head? = some (name, rest) := by
  simp only [List.mem_append, or_imp, forall_and] at hclass
  obtain ⟨⟨-, hname⟩, hbody⟩ := hclass
  cases name with
  | nil => cases hhead
  | cons c name =>
    obtain rfl := Option.some.inj hhead
    obtain ⟨more, hmore⟩ := behindRun_prefix hbefore (c :: name ++ (after ++ '}' :: '}' :: rest))
    rw [List.cons_append, behindRun_cons_of_neg hfirst] at hmore
    have hbraces : before ++ (c :: name) ++ after ++ '}' :: '}' :: rest =
        before ++ (c :: (name ++ (after ++ '}' :: '}' :: rest))) := by simp
    rw [hbraces, ← hmore, ← List.nil_append [_], List.append_assoc]
    apply head?_flatMap_of_head? (by simp)
    apply head?_namings (List.cons_ne_nil c name) hname hafter hbody
    intro u v _ hv heq hblank
    -- The last character is in what a shorter name leaves over.
    rw [heq, List.getLast?_append, List.getLast?_eq_some_getLast hv, Option.some_or] at hlast?
    have hmem := hblank last (Option.some.inj hlast? ▸ List.getLast_mem hv)
    rw [hlast] at hmem
    cases hmem

/-- In a body of blanks, the longest run of them leaves nothing for a name, and the next one a
single blank. -/
theorem head?_namings_blank {before : Text} {c : Char} (hclass : isBodyChar c = true)
    (hbefore : IsBlank before) (hc : Text.isBlank c = true) (rest : Text) :
    ((behindRun Text.isBlank (before ++ [c] ++ '}' :: '}' :: rest)).flatMap namings).head? =
      some ([c], rest) := by
  obtain ⟨more, hmore⟩ := behindRun_prefix hbefore (c :: '}' :: '}' :: rest)
  rw [behindRun, if_pos hc, behindRun_cons_of_neg (by decide)] at hmore
  have hruns : behindRun Text.isBlank (before ++ [c] ++ '}' :: '}' :: rest) =
      ['}' :: '}' :: rest] ++ (c :: '}' :: '}' :: rest) :: more := by
    rw [List.append_assoc, List.singleton_append, ← hmore]
    rfl
  rw [hruns]
  apply head?_flatMap_of_head?
  · intro t ht
    rw [List.mem_singleton.1 ht]
    exact namings_closing _
  · have hnothing : IsBlank [] := by simp [IsBlank]
    have hclass' : ∀ c' ∈ [c], isBodyChar c' = true := by simpa using hclass
    refine head?_namings (List.cons_ne_nil c []) hclass' hnothing (by simp) ?_ rest
    -- A single character has no shorter name.
    intro u v hu hv heq
    have hlength := congrArg List.length heq
    have hu' := List.length_pos_iff.2 hu
    have hv' := List.length_pos_iff.2 hv
    simp at hlength
    omega

/-- The first reading of a placeholder has its name. -/
theorem head?_readings_placeholder {body : Text} (hbody : IsBody body) (hname : IsName body name)
    (rest : Text) : (readings (placeholder body ++ rest)).head? = some (name, rest) := by
  have hreadings : readings (placeholder body ++ rest) =
      (behindRun Text.isBlank (body ++ '}' :: '}' :: rest)).flatMap namings := by
    simp [placeholder, readings]
  have hclass := hbody.isBodyChar
  rw [hreadings]
  cases hname with
  | trimmed hbefore hafter hhead hfirst hlast? hlast =>
    exact head?_namings_trimmed hclass hbefore hafter hhead hfirst hlast? hlast rest
  | blank hbefore hc => exact head?_namings_blank (hclass _ (by simp)) hbefore hc rest

/-- What is read at all is a placeholder. -/
theorem exists_placeholder_of_mem_readings {reading : Text × Text} (h : reading ∈ readings t) :
    ∃ body, IsBody body ∧ t = placeholder body ++ reading.2 := by
  unfold readings at h
  split at h
  next rest =>
    obtain ⟨left, hleft, h⟩ := List.mem_flatMap.1 h
    obtain ⟨run, hrun, h⟩ := List.mem_flatMap.1 h
    obtain ⟨end_, hend, rfl⟩ := List.mem_map.1 h
    obtain ⟨left', hleft', hclosing⟩ := List.mem_filterMap.1 hend
    obtain rfl := behindClosing?_eq_some_iff.1 hclosing
    obtain ⟨before, hbefore, rfl⟩ := exists_run_of_mem_behindRun hleft
    obtain ⟨hne, hname, rfl⟩ := of_mem_someRun hrun
    obtain ⟨after, hafter, hleft''⟩ := exists_run_of_mem_behindRun hleft'
    have hblank : ∀ c, Text.isBlank c = true → c ≠ '{' ∧ c ≠ '}' := by
      intro c hc
      constructor <;> rintro rfl <;> exact absurd hc (by decide)
    refine ⟨before ++ run.1 ++ after, ⟨by simp [hne], ?_⟩, ?_⟩
    · intro c hc
      rcases List.mem_append.1 hc with hc | hc
      · rcases List.mem_append.1 hc with hc | hc
        · exact hblank c (hbefore c hc)
        · exact isBodyChar_iff.1 (hname c hc)
      · exact hblank c (hafter c hc)
    · simp [placeholder, hleft'']
  next => cases h

/-- The first reading of the pattern is the placeholder that begins a text, with its name. -/
theorem head?_readings_eq_some_iff :
    (readings t).head? = some (name, rest) ↔
      ∃ body, IsBody body ∧ IsName body name ∧ t = placeholder body ++ rest := by
  constructor
  · intro h
    obtain ⟨body, hbody, ht⟩ := exists_placeholder_of_mem_readings (List.mem_of_head? h)
    have hname := (isName_iff hbody.nonempty).2 rfl
    rw [ht, head?_readings_placeholder hbody hname] at h
    obtain rfl : nameOf body = name := congrArg Prod.fst (Option.some.inj h)
    exact ⟨body, hbody, hname, ht⟩
  · rintro ⟨body, hbody, hname, rfl⟩
    exact head?_readings_placeholder hbody hname rest

end TextDomain.Template
