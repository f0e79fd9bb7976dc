import Mathlib.Data.List.Forall2
import TextDomain.Proofs.Message.Placeholder

/-!
# What a template renders to

Rendering goes through a template once, from left to right. What it comes to is
said here in two other ways. The one cuts the template into characters that are
copied and placeholders that are replaced, so that no placeholder begins at a
copied character; where the cuts are found does not matter. The other one tries
a pattern at every place and goes on behind what its first reading takes.

In both, a value goes into the result and nothing is ever read from the result,
so that braces in a value mean nothing.

## Main results

* `Scan.render_eq` — the parts of a template render one by one.
* `render_eq_iff_substituted` — rendering replaces what the pattern reads.
* `renderWith_eq_iff` — both accounts of a rendered message.
-/

namespace TextDomain.Template

/-! ## Parts -/

/-- A part of a template. -/
inductive Part where
  /-- A character that is copied. -/
  | copied (c : Char)
  /-- A placeholder that is replaced. -/
  | replaced (body : Text)

/-- The part as it stands in the template. -/
def Part.source : Part → Text
  | .copied c => [c]
  | .replaced body => placeholder body

/-- A placeholder begins the text. -/
def Opens (t : Text) : Prop := ∃ body rest, IsBody body ∧ t = placeholder body ++ rest

/-- `Scan template parts`: the template consists of these parts, and is replaced wherever it can
be, from left to right. -/
structure Scan (template : Text) (parts : List Part) : Prop where
  /-- Nothing is left out. -/
  covers : parts.flatMap Part.source = template
  /-- What is replaced is a placeholder. -/
  bodies : ∀ body, .replaced body ∈ parts → IsBody body
  /-- Where a character is copied, no placeholder begins. -/
  leftmost : ∀ before c after, parts = before ++ .copied c :: after →
    ¬ Opens (c :: after.flatMap Part.source)

variable {template rest t : Text} {parts : List Part} {value : Text → Text}

theorem opens_iff : Opens t ↔ ∃ body, placeholder? t = some body := by
  simp only [placeholder?_eq_some_iff, Opens, exists_and_left]

theorem scan_nil : Scan [] [] where
  covers := rfl
  bodies := by simp
  leftmost := by simp

theorem Scan.copy {c : Char} (h : Scan rest parts) (hopens : ¬ Opens (c :: rest)) :
    Scan (c :: rest) (.copied c :: parts) where
  covers := by rw [List.flatMap_cons, h.covers]; rfl
  bodies := by simpa using h.bodies
  leftmost := by
    intro before c' after heq
    cases before with
    | nil =>
      cases heq
      rw [h.covers]
      exact hopens
    | cons first before =>
      exact h.leftmost before c' after (List.cons.inj heq).2

theorem Scan.replace {body : Text} (h : Scan rest parts) (hbody : IsBody body) :
    Scan (placeholder body ++ rest) (.replaced body :: parts) where
  covers := by rw [List.flatMap_cons, h.covers]; rfl
  bodies := by
    intro body' hmem
    rcases List.mem_cons.1 hmem with heq | hmem
    · cases heq
      exact hbody
    · exact h.bodies body' hmem
  leftmost := by
    intro before c after heq
    cases before with
    | nil => cases heq
    | cons first before => exact h.leftmost before c after (List.cons.inj heq).2

theorem Scan.tail {part : Part} (h : Scan template (part :: parts)) :
    ∃ rest, template = part.source ++ rest ∧ Scan rest parts := by
  refine ⟨parts.flatMap Part.source, h.covers.symm, rfl, ?_, ?_⟩
  · intro body hmem
    exact h.bodies body (List.mem_cons_of_mem part hmem)
  · intro before c after heq
    exact h.leftmost (part :: before) c after (by rw [heq, List.cons_append])

/-- Every template has parts. -/
theorem exists_scan (template : Text) : ∃ parts, Scan template parts := by
  induction hlength : template.length using Nat.strongRecOn generalizing template with
  | ind n ih =>
    cases template with
    | nil => exact ⟨[], scan_nil⟩
    | cons c rest =>
      by_cases hopens : Opens (c :: rest)
      · obtain ⟨body, rest', hbody, heq⟩ := hopens
        have hshort : rest'.length < n := by
          rw [← hlength, heq]
          simp [placeholder]
          omega
        obtain ⟨parts, hparts⟩ := ih rest'.length hshort rest' rfl
        rw [heq]
        exact ⟨_, hparts.replace hbody⟩
      · have hshort : rest.length < n := by
          rw [← hlength]
          exact Nat.lt_succ_self _
        obtain ⟨parts, hparts⟩ := ih rest.length hshort rest rfl
        exact ⟨_, hparts.copy hopens⟩

/-! ## Rendering in steps -/

theorem renderAfter_eq_drop (value : Text → Text) (n : Nat) (t : Text) :
    renderAfter value n t = render value (t.drop n) := by
  induction t generalizing n with
  | nil => cases n <;> simp [render, renderAfter]
  | cons c rest ih =>
    cases n with
    | zero => rfl
    | succ n => rw [renderAfter, ih, List.drop_succ_cons]

theorem render_of_not_opens {c : Char} (h : ¬ Opens (c :: rest)) :
    render value (c :: rest) = c :: render value rest := by
  have hnone : placeholder? (c :: rest) = none := by
    rw [opens_iff, not_exists] at h
    exact Option.eq_none_iff_forall_ne_some.2 h
  rw [render, renderAfter, hnone]
  rfl

theorem render_placeholder {body : Text} (h : IsBody body) (rest : Text) :
    render value (placeholder body ++ rest) = value (nameOf body) ++ render value rest := by
  have hsome : placeholder? (placeholder body ++ rest) = some body :=
    placeholder?_eq_some_iff.2 ⟨h, rest, rfl⟩
  have hcons : placeholder body ++ rest = '{' :: ('{' :: body ++ ['}', '}'] ++ rest) := rfl
  rw [hcons] at hsome ⊢
  have hdrop : ('{' :: body ++ ['}', '}'] ++ rest).drop (body.length + 3) = rest :=
    List.drop_left' (by simp)
  rw [render, renderAfter, hsome]
  dsimp only
  rw [renderAfter_eq_drop, hdrop]

/-- The part as it is rendered. -/
def Part.rendered (value : Text → Text) : Part → Text
  | .copied c => [c]
  | .replaced body => value (nameOf body)

/-- The parts of a template render one by one. -/
theorem Scan.render_eq (h : Scan template parts) :
    render value template = parts.flatMap (Part.rendered value) := by
  induction parts generalizing template with
  | nil =>
    obtain rfl := h.covers
    rfl
  | cons part parts ih =>
    obtain ⟨rest, rfl, hrest⟩ := h.tail
    rw [List.flatMap_cons, ← ih hrest]
    cases part with
    | copied c =>
      have hopens := h.leftmost [] c parts rfl
      rw [hrest.covers] at hopens
      exact render_of_not_opens hopens
    | replaced body => exact render_placeholder (h.bodies body (List.mem_cons_self ..)) rest

/-! ## Rendering by the pattern -/

/-- `Substituted value template t`: `t` is the template with everything replaced that the pattern
reads, where it goes on behind its first reading. -/
inductive Substituted (value : Text → Text) : Text → Text → Prop where
  /-- The template ends. -/
  | done : Substituted value [] []
  /-- Where the pattern reads nothing, a character is copied. -/
  | copy {c : Char} {rest t : Text} (hnone : (readings (c :: rest)).head? = none)
      (h : Substituted value rest t) : Substituted value (c :: rest) (c :: t)
  /-- What the pattern reads is replaced by the value of its name. -/
  | replace {template name rest t : Text}
      (hfirst : (readings template).head? = some (name, rest)) (h : Substituted value rest t) :
      Substituted value template (value name ++ t)

theorem not_opens_iff : ¬ Opens t ↔ (readings t).head? = none := by
  rw [Option.eq_none_iff_forall_ne_some]
  constructor
  · rintro h ⟨name, rest⟩ hfirst
    obtain ⟨body, hbody, -, ht⟩ := head?_readings_eq_some_iff.1 hfirst
    exact h ⟨body, rest, hbody, ht⟩
  · rintro h ⟨body, rest, hbody, ht⟩
    have hname := (isName_iff hbody.nonempty).2 rfl
    exact h (nameOf body, rest) (head?_readings_eq_some_iff.2 ⟨body, hbody, hname, ht⟩)

theorem Scan.substituted (h : Scan template parts) :
    Substituted value template (parts.flatMap (Part.rendered value)) := by
  induction parts generalizing template with
  | nil =>
    obtain rfl := h.covers
    exact .done
  | cons part parts ih =>
    obtain ⟨rest, rfl, hrest⟩ := h.tail
    rw [List.flatMap_cons]
    cases part with
    | copied c =>
      have hopens := h.leftmost [] c parts rfl
      rw [hrest.covers] at hopens
      exact .copy (not_opens_iff.1 hopens) (ih hrest)
    | replaced body =>
      have hbody := h.bodies body (List.mem_cons_self ..)
      have hname := (isName_iff hbody.nonempty).2 rfl
      exact .replace (head?_readings_eq_some_iff.2 ⟨body, hbody, hname, rfl⟩) (ih hrest)

theorem Substituted.render_eq (h : Substituted value template t) : render value template = t := by
  induction h with
  | done => rfl
  | copy hnone _ ih => rw [render_of_not_opens (not_opens_iff.2 hnone), ih]
  | replace hfirst _ ih =>
    obtain ⟨body, hbody, hname, rfl⟩ := head?_readings_eq_some_iff.1 hfirst
    rw [render_placeholder hbody, hname.nameOf_eq, ih]

/-- Rendering replaces what the pattern reads. -/
theorem render_eq_iff_substituted : render value template = t ↔ Substituted value template t := by
  constructor
  · rintro rfl
    obtain ⟨parts, hparts⟩ := exists_scan template
    rw [hparts.render_eq]
    exact hparts.substituted
  · exact Substituted.render_eq

/-! ## Rendering with data -/

/-- `Part.Shows data part t`: with the data, `t` stands for the part. -/
inductive Part.Shows (data : List (Text × Datum)) : Part → Text → Prop where
  /-- A character stands for itself. -/
  | copied (c : Char) : Shows data (.copied c) [c]
  /-- A name that the data does not have is left out. -/
  | missing {body name : Text} (hname : IsName body name) (h : ∀ x ∈ data, x.1 ≠ name) :
      Shows data (.replaced body) []
  /-- A name with null for it is left out. -/
  | null {body name : Text} (hname : IsName body name) (h : Datum.field? name data = some .null) :
      Shows data (.replaced body) []
  /-- Any other value stands for its name as messages show it. -/
  | value {body name : Text} {d : Datum} (hname : IsName body name)
      (h : Datum.field? name data = some d) (hd : d ≠ .null) :
      Shows data (.replaced body) d.display

/-- `Rendered data template t`: `t` consists of what stands for the parts of the template. -/
def Rendered (data : List (Text × Datum)) (template t : Text) : Prop :=
  ∃ parts texts, Scan template parts ∧ List.Forall₂ (Part.Shows data) parts texts ∧
    t = texts.flatten

variable {data : List (Text × Datum)}

theorem field?_eq_none_iff {name : Text} :
    Datum.field? name data = none ↔ ∀ x ∈ data, x.1 ≠ name := by
  simp [Datum.field?]

theorem Part.shows_iff {part : Part} (hbody : ∀ body, part = .replaced body → IsBody body) :
    part.Shows data t ↔ t = part.rendered (valueIn data) := by
  constructor
  · rintro (_ | ⟨hname, h⟩ | ⟨hname, h⟩ | ⟨hname, h, hd⟩)
    · rfl
    · rw [rendered, hname.nameOf_eq, valueIn, field?_eq_none_iff.2 h]
    · rw [rendered, hname.nameOf_eq, valueIn, h]
    · rw [rendered, hname.nameOf_eq, valueIn, h]
      split <;> simp_all
  · rintro rfl
    cases part with
    | copied c => exact .copied c
    | replaced body =>
      have hname := (isName_iff (hbody body rfl).nonempty).2 rfl
      rw [rendered, valueIn]
      split
      next h => exact .missing hname (field?_eq_none_iff.1 h)
      next h => exact .null hname h
      next d hd h => exact .value hname h hd

/-- For every part there stands what it is rendered to, and nothing else does. -/
theorem Scan.shows_iff (h : Scan template parts) {texts : List Text} :
    List.Forall₂ (Part.Shows data) parts texts ↔
      texts = parts.map (Part.rendered (valueIn data)) := by
  have hpart : ∀ part ∈ parts, ∀ t, part.Shows data t ↔ t = part.rendered (valueIn data) := by
    intro part hmem t
    apply Part.shows_iff
    rintro body rfl
    exact h.bodies body hmem
  clear h
  induction parts generalizing texts with
  | nil => simp
  | cons part parts ih =>
    obtain ⟨hfirst, hrest⟩ := List.forall_mem_cons.1 hpart
    cases texts with
    | nil => simp
    | cons t texts => simp [hfirst, ih hrest]

/-- Rendering with data gives what stands for the parts. -/
theorem renderWith_eq_iff_rendered : renderWith data template = t ↔ Rendered data template t := by
  constructor
  · rintro rfl
    obtain ⟨parts, hparts⟩ := exists_scan template
    refine ⟨parts, _, hparts, hparts.shows_iff.2 rfl, ?_⟩
    rw [renderWith, hparts.render_eq, List.flatMap_def]
  · rintro ⟨parts, texts, hparts, hshows, rfl⟩
    rw [hparts.shows_iff.1 hshows, renderWith, hparts.render_eq, List.flatMap_def]

/-- Rendering a template with data replaces the placeholders that are leftmost in it, and those
that the pattern reads, by what the data has for their names, and copies everything else. Whatever
a text domain is, the message on it shows it as it is. -/
theorem renderWith_eq_iff :
    (∀ (data : List (Text × Datum)) (template t : Text),
      renderWith data template = t ↔ Rendered data template t) ∧
    (∀ (data : List (Text × Datum)) (template t : Text),
      renderWith data template = t ↔ Substituted (valueIn data) template t) ∧
    ∀ (domain : Text) (others : List (Text × Datum)),
      MessageId.invalidValue.render (("textDomain".toList, .text domain) :: others) =
        "Invalid text domain '".toList ++ domain ++ "'".toList := by
  refine ⟨fun data template t => renderWith_eq_iff_rendered,
    fun data template t => render_eq_iff_substituted, fun domain others => ?_⟩
  -- Only the template is computed with; the domain is a variable in what it comes to.
  rfl

end TextDomain.Template
