import TextDomain.Literal.Field
import TextDomain.Proofs.Source.Lexer

/-!
# Where replacement fields stand

The scan of a formatted piece goes over its body once, in steps that each end
at a field or at the end of the body. A field that it finds stands between a
brace of the body and a character that ends expressions, and the position it is
given is that of its brace.

## Main results

* `Field.scan?_cases` — what one step of a scan does.
* `Field.passes_of_scan?` — the fields lie in what a scan passes over, one behind another.
* `fieldLiesIn_of_fields?` — where the fields of a body stand.
* `pairwise_of_fields?` — one field stands before the next.
-/

namespace TextDomain.Literal

namespace Field

/-- One step of a scan that finds a field, taken apart. -/
structure Found (raw : Bool) (steps depth : Nat) (next : Cursor) (fields : List Field)
    (finish : Cursor) where
  /-- The length of the expression. -/
  length : Nat
  /-- What follows the equals sign and the conversion. -/
  tail : Cursor
  /-- The fields of the format. -/
  nested : List Field
  /-- What follows the format. -/
  close : Cursor
  /-- The fields after this one. -/
  more : List Field
  depth_lt : depth < 2
  expression : expressionLength? 0 0 ⟨none, []⟩ (next.advance 1).rest = some length
  content : isEmptyExpression ((next.advance 1).rest.take length) = false
  conversion : afterConversion? (afterEquals ((next.advance 1).advance length)) = some tail
  format : (∃ r, tail.rest = ':' :: r ∧
      scan? raw steps (depth + 1) (tail.advance 1) = some (nested, close)) ∨
    tail.rest.head? ≠ some ':' ∧ nested = [] ∧ close = tail
  brace : ∃ r, close.rest = '}' :: r
  rest : scan? raw steps depth (close.advance 1) = some (more, finish)
  fields_eq : fields =
    ⟨(next.advance 1).rest.take length, next.position⟩ :: nested ++ more

theorem scan?_cases {raw : Bool} {steps depth : Nat} {c finish : Cursor} {fields : List Field}
    (h : scan? raw (steps + 1) depth c = some (fields, finish)) :
    ∃ length how width, plainRun? raw (depth != 0) 0 c.rest = some (length, how, width) ∧
      (how = .doubled ∧ scan? raw steps depth (c.advance width) = some (fields, finish) ∨
        how = .boundary ∧ ((∃ r, (c.advance width).rest = '{' :: r) ∧
            Nonempty (Found raw steps depth (c.advance width) fields finish) ∨
          (c.advance width).rest.head? ≠ some '{' ∧ fields = [] ∧ finish = c.advance width)) := by
  rw [scan?] at h
  obtain ⟨⟨length, how, width⟩, hrun, h⟩ := Option.bind_eq_some_iff.1 h
  refine ⟨length, how, width, hrun, ?_⟩
  dsimp only at h
  split at h
  · cases h
  cases how with
  | doubled => exact .inl ⟨rfl, h⟩
  | boundary =>
    refine .inr ⟨rfl, ?_⟩
    split at h
    next heq => cases heq
    next r _ hnext =>
      refine .inl ⟨⟨r, hnext⟩, ?_⟩
      split at h
      · cases h
      next hdepth =>
        obtain ⟨n, hexpression, h⟩ := Option.bind_eq_some_iff.1 h
        split at h
        · cases h
        next hcontent =>
          obtain ⟨tail, hconversion, h⟩ := Option.bind_eq_some_iff.1 h
          split at h
          next r hcolon =>
            obtain ⟨⟨nested, close⟩, hnested, h⟩ := Option.bind_eq_some_iff.1 h
            split at h
            next r' hbrace =>
              obtain ⟨⟨more, finish'⟩, hmore, h⟩ := Option.bind_eq_some_iff.1 h
              cases h
              exact ⟨⟨n, tail, nested, close, more, Nat.lt_of_not_le hdepth, hexpression,
                Bool.eq_false_iff.2 hcontent, hconversion, .inl ⟨r, hcolon, hnested⟩,
                ⟨r', hbrace⟩, hmore, rfl⟩⟩
            next => cases h
          next hcolon =>
            have hhead : tail.rest.head? ≠ some ':' := by
              intro hhead
              obtain ⟨r, hr⟩ := List.head?_eq_some_iff.1 hhead
              exact hcolon r hr
            rw [Option.bind_eq_bind, Option.bind_some] at h
            split at h
            next r' hbrace =>
              obtain ⟨⟨more, finish'⟩, hmore, h⟩ := Option.bind_eq_some_iff.1 h
              cases h
              exact ⟨⟨n, tail, [], tail, more, Nat.lt_of_not_le hdepth, hexpression,
                Bool.eq_false_iff.2 hcontent, hconversion, .inr ⟨hhead, rfl, rfl⟩,
                ⟨r', hbrace⟩, hmore, rfl⟩⟩
            next => cases h
    next hnext =>
      cases h
      refine .inr ⟨?_, rfl, rfl⟩
      intro hhead
      obtain ⟨r, hr⟩ := List.head?_eq_some_iff.1 hhead
      exact hnext r hr

/-! ## Where fields stand -/

variable {f f' : Field} {p : Position} {t u : Text}

/-- The characters that end the expression of a field. -/
def endsExpression (c : Char) : Bool := c == '!' || c == ':' || c == '}' || c == '='

/-- `n` characters, counted from `count`, and then one that ends expressions. -/
def EndsAt (count n : Nat) (t : Text) : Prop :=
  ∃ m x post, n = count + m ∧ t.drop m = x :: post ∧ endsExpression x = true

theorem EndsAt.cons {count n : Nat} {c : Char} {t : Text} (h : EndsAt (count + 1) n t) :
    EndsAt count n (c :: t) := by
  obtain ⟨m, x, post, hn, hdrop, hx⟩ := h
  exact ⟨m + 1, x, post, by omega, hdrop, hx⟩

/-- An expression ends before a character that ends expressions. -/
theorem expressionLength?_ends {count skip n : Nat} {s : Scan} {t : Text}
    (h : expressionLength? count skip s t = some n) : EndsAt count n t := by
  fun_induction expressionLength? count skip s t
  case case15 hends =>
    cases h
    refine ⟨0, _, _, rfl, rfl, ?_⟩
    simpa [endsExpression, or_assoc] using hends
  all_goals first
    | cases h
    | (rename_i ih; exact (ih h).cons)

/-- A field that stands somewhere in what a cursor has left, between its brace
and the character that ends its expression. -/
def FieldLiesIn (c : Cursor) (f : Field) : Prop :=
  ∃ pre x post, c.rest = pre ++ '{' :: f.source ++ x :: post ∧ endsExpression x = true ∧
    f.position = c.position.after pre

theorem FieldLiesIn.within (h : FieldLiesIn ⟨t, p⟩ f) (u : Text) : FieldLiesIn ⟨t ++ u, p⟩ f := by
  obtain ⟨pre, x, post, heq, hx, hf⟩ := h
  refine ⟨pre, x, post ++ u, ?_, hx, hf⟩
  dsimp only at heq ⊢
  rw [heq]
  simp only [List.append_assoc, List.cons_append]

theorem FieldLiesIn.behind (h : FieldLiesIn ⟨u, p.after t⟩ f) : FieldLiesIn ⟨t ++ u, p⟩ f := by
  obtain ⟨pre, x, post, heq, hx, hf⟩ := h
  dsimp only at heq hf
  refine ⟨t ++ pre, x, post, ?_, hx, ?_⟩
  · dsimp only
    rw [heq]
    simp only [List.append_assoc]
  · rw [hf, ← Position.after_append]

/-- One field stands before another, and between them is the character that ends its
expression. -/
def Precedes (f f' : Field) : Prop :=
  ∃ x post, endsExpression x = true ∧ f'.position = f.position.after ('{' :: f.source ++ x :: post)

/-- The fields lie in a text that begins at a position, one behind another. -/
structure Covers (p : Position) (t : Text) (fields : List Field) : Prop where
  lies : ∀ f ∈ fields, FieldLiesIn ⟨t, p⟩ f
  ordered : fields.Pairwise Precedes

namespace Covers

variable {fs fs' : List Field}

theorem nil : Covers p t [] := ⟨fun _ hf => absurd hf List.not_mem_nil, .nil⟩

theorem within (h : Covers p t fs) (u : Text) : Covers p (t ++ u) fs :=
  ⟨fun f hf => (h.lies f hf).within u, h.ordered⟩

theorem behind (h : Covers (p.after t) u fs) : Covers p (t ++ u) fs :=
  ⟨fun f hf => (h.lies f hf).behind, h.ordered⟩

theorem precedes (h : Covers p t fs) (h' : Covers (p.after t) u fs') (hf : f ∈ fs)
    (hf' : f' ∈ fs') : f.Precedes f' := by
  obtain ⟨pre, x, post, heq, hx, hposition⟩ := h.lies f hf
  obtain ⟨pre', -, -, -, -, hposition'⟩ := h'.lies f' hf'
  dsimp only at heq hposition hposition'
  refine ⟨x, post ++ pre', hx, ?_⟩
  rw [hposition', hposition, heq, ← Position.after_append, ← Position.after_append]
  simp only [List.append_assoc, List.cons_append]

theorem append (h : Covers p t fs) (h' : Covers (p.after t) u fs') :
    Covers p (t ++ u) (fs ++ fs') where
  lies := List.forall_mem_append.2 ⟨(h.within u).lies, h'.behind.lies⟩
  ordered := List.pairwise_append.2
    ⟨h.ordered, h'.ordered, fun _ hf _ hf' => h.precedes h' hf hf'⟩

/-- A field and the ones behind the character that ends its expression. -/
theorem cons {x : Char} (hx : endsExpression x = true)
    (h : Covers (f.position.after ('{' :: f.source)) (x :: t) fs) :
    Covers f.position ('{' :: f.source ++ x :: t) (f :: fs) := by
  refine ⟨List.forall_mem_cons.2 ⟨⟨[], x, t, rfl, hx, rfl⟩, h.behind.lies⟩, .cons ?_ h.ordered⟩
  intro f' hf'
  obtain ⟨pre, y, post, heq, -, hposition⟩ := h.lies f' hf'
  cases pre with
  | nil =>
    obtain ⟨rfl, -⟩ := List.cons.inj heq
    exact absurd hx (by decide)
  | cons z pre =>
    obtain ⟨rfl, -⟩ := List.cons.inj heq
    exact ⟨x, pre, hx, by rw [hposition, ← Position.after_append]⟩

end Covers

theorem passes_afterEquals (c : Cursor) : ∃ t, c.Passes t (afterEquals c) := by
  unfold afterEquals
  split
  · exact ⟨_, (c.passes_advance 1).trans (Cursor.passes_skipWhile _ _)⟩
  · exact ⟨[], .refl c⟩

theorem passes_afterConversion? {c c' : Cursor} (h : afterConversion? c = some c') :
    ∃ t, c.Passes t c' := by
  unfold afterConversion? at h
  split at h
  · split at h
    · cases h
      exact ⟨_, c.passes_advance 2⟩
    · cases h
  · cases h
  · cases h
    exact ⟨[], .refl c⟩

/-- The expression of a field is followed by a character that ends it. -/
theorem Found.exists_ends {raw : Bool} {steps depth : Nat} {next finish : Cursor}
    {fields : List Field} (h : Found raw steps depth next fields finish) :
    ∃ x post, ((next.advance 1).advance h.length).rest = x :: post ∧ endsExpression x = true := by
  obtain ⟨m, x, post, hm, hdrop, hx⟩ := expressionLength?_ends h.expression
  rw [Nat.zero_add] at hm
  exact ⟨x, post, by rw [← hdrop, ← hm]; rfl, hx⟩

/-- A field, the fields of its format and those behind it cover what is passed over if the
format and what is behind it are covered. -/
theorem Found.covers {raw : Bool} {steps depth : Nat} {next finish : Cursor} {fields : List Field}
    (h : Found raw steps depth next fields finish) {r : Text} (hbrace : next.rest = '{' :: r)
    (hnested : ∃ w, h.tail.Passes w h.close ∧ Covers h.tail.position w h.nested)
    (hmore : ∃ t, (h.close.advance 1).Passes t finish ∧
      Covers (h.close.advance 1).position t h.more) :
    ∃ t, next.Passes t finish ∧ Covers next.position t fields := by
  obtain ⟨w, hformat, hnested⟩ := hnested
  obtain ⟨rest, hrest, hmore⟩ := hmore
  obtain ⟨x, post, hends, hx⟩ := h.exists_ends
  obtain ⟨t, hconversion⟩ := passes_afterConversion? h.conversion
  obtain ⟨t', hequals⟩ := passes_afterEquals ((next.advance 1).advance h.length)
  have htail := hequals.trans hconversion
  have hsource : next.Passes ('{' :: (next.advance 1).rest.take h.length)
      ((next.advance 1).advance h.length) := by
    have hopen := next.passes_advance 1
    rw [hbrace] at hopen
    exact hopen.trans ((next.advance 1).passes_advance h.length)
  have hclose : h.close.Passes ['}'] (h.close.advance 1) := by
    obtain ⟨r', hr'⟩ := h.brace
    simpa [hr'] using h.close.passes_advance 1
  have hbehind := (htail.trans hformat).trans hclose
  -- What is passed over behind the expression begins with the character that ends it.
  obtain ⟨v, hv⟩ : ∃ v, t' ++ t ++ w ++ ['}'] = x :: v := by
    have heq := hbehind.rest
    rw [hends] at heq
    generalize t' ++ t ++ w = z at heq ⊢
    cases z with
    | nil => exact ⟨[], by rw [(List.cons.inj heq).1]; rfl⟩
    | cons y z => exact ⟨z ++ ['}'], by rw [(List.cons.inj heq).1]; rfl⟩
  have hinner : Covers (next.position.after ('{' :: (next.advance 1).rest.take h.length))
      (x :: v) h.nested := by
    rw [← hv, List.append_assoc, ← hsource.position]
    refine Covers.behind ?_
    rw [← htail.position]
    exact hnested.within _
  have hfield := hsource.trans hbehind
  rw [hv] at hfield
  rw [hfield.position] at hmore
  have hfirst := Covers.cons (f := ⟨(next.advance 1).rest.take h.length, next.position⟩) hx hinner
  rw [h.fields_eq]
  exact ⟨_, hfield.trans hrest, hfirst.append hmore⟩

/-- A scan passes over a text that its fields cover. -/
theorem passes_of_scan? {raw : Bool} {steps depth : Nat} {c finish : Cursor}
    {fields : List Field} (h : scan? raw steps depth c = some (fields, finish)) :
    ∃ t, c.Passes t finish ∧ Covers c.position t fields := by
  induction steps generalizing depth c finish fields with
  | zero => cases h
  | succ steps ih =>
    have hahead : ∀ {depth n : Nat} {c finish : Cursor} {fields : List Field},
        scan? raw steps depth (c.advance n) = some (fields, finish) →
          ∃ t, c.Passes t finish ∧ Covers c.position t fields := by
      intro depth n c finish fields hscan
      obtain ⟨t, hpasses, hcovers⟩ := ih hscan
      exact ⟨_, (c.passes_advance n).trans hpasses, Covers.behind hcovers⟩
    obtain ⟨length, how, width, -, hcases⟩ := scan?_cases h
    have hwidth := c.passes_advance width
    rcases hcases with ⟨-, hscan⟩ | ⟨-, ⟨⟨r, hbrace⟩, ⟨hfound⟩⟩ | ⟨-, rfl, rfl⟩⟩
    · exact hahead hscan
    · have hnested : ∃ w, hfound.tail.Passes w hfound.close ∧
          Covers hfound.tail.position w hfound.nested := by
        rcases hfound.format with ⟨r', -, hscan⟩ | ⟨-, hnone, hclose⟩
        · exact hahead hscan
        · rw [hnone, hclose]
          exact ⟨[], .refl _, .nil⟩
      obtain ⟨t, hpasses, hcovers⟩ := hfound.covers hbrace hnested (ih hfound.rest)
      exact ⟨_, hwidth.trans hpasses, Covers.behind hcovers⟩
    · exact ⟨_, hwidth, .nil⟩

end Field

/-- Fields stand in the body. -/
theorem fieldLiesIn_of_fields? {raw : Bool} {body : Text} {start : Position}
    {fields : List Field} (h : fields? raw body start = some fields) :
    ∀ f ∈ fields, Field.FieldLiesIn ⟨body, start⟩ f := by
  unfold fields? at h
  split at h
  next hscan =>
    cases h
    obtain ⟨t, hpasses, hcovers⟩ := Field.passes_of_scan? hscan
    have hbody : body = t ++ _ := hpasses.rest
    rw [hbody]
    exact (hcovers.within _).lies
  next => cases h

/-- Fields stand one behind another. -/
theorem pairwise_of_fields? {raw : Bool} {body : Text} {start : Position}
    {fields : List Field} (h : fields? raw body start = some fields) :
    fields.Pairwise Field.Precedes := by
  unfold fields? at h
  split at h
  next hscan =>
    cases h
    obtain ⟨t, -, hcovers⟩ := Field.passes_of_scan? hscan
    exact hcovers.ordered
  next => cases h

end TextDomain.Literal
