import TextDomain.Proofs.Source.Boundary

/-!
# Offsets of positions

Positions are counted in the lines of a text whose terminators have been unified. If a text is
cut in two, and no terminator with it, both parts are unified each for itself. So where a
position stands in the first part does not depend on the second, and how far behind the first
part one stands in the second does not depend on the first.

## Main results

* `StandsAt.eq_iff`, `StandsAt.offset_unique` — positions are equal where their offsets are.
* `exists_standsAt_front`, `exists_standsAt_behind` — the offsets in either part of a text.
-/

namespace TextDomain

namespace Text

variable {x y t u : Text}

/-- No terminator is cut in two. -/
def Cut (x y : Text) : Prop := x.getLast? = some '\r' → y.head? ≠ some '\n'

theorem cut_nil_left (y : Text) : Cut [] y := nofun

theorem Cut.tail {c : Char} (h : Cut (c :: x) y) : Cut x y := by
  intro hlast
  refine h ?_
  rw [List.getLast?_cons, hlast]
  rfl

/-- Of the parts between which a text is cut, the first may be followed by more of the
second, and the second may be preceded by more of the first. -/
theorem Cut.append_right (h : Cut x y) (hy : y ≠ []) (z : Text) : Cut x (y ++ z) := by
  intro hlast
  rw [List.head?_append_of_ne_nil _ hy]
  exact h hlast

theorem Cut.append_left (h : Cut x y) (hx : x ≠ []) (z : Text) : Cut (z ++ x) y := by
  intro hlast
  rw [List.getLast?_append_of_ne_nil _ hx] at hlast
  exact h hlast

theorem unifyTerminators_append (h : Cut x y) :
    (x ++ y).unifyTerminators = x.unifyTerminators ++ y.unifyTerminators := by
  fun_induction unifyTerminators x with
  | case1 => rfl
  | case2 rest ih =>
    rw [List.cons_append, List.cons_append, unifyTerminators, ih h.tail.tail]
    rfl
  | case3 c rest hcrlf ih =>
    rw [List.cons_append, unifyTerminators, ih h.tail]
    · rfl
    · rintro more rfl hrest
      cases rest with
      | nil => exact h rfl (by rw [← List.nil_append y, hrest]; rfl)
      | cons z rest =>
        obtain ⟨rfl, -⟩ := List.cons.inj hrest
        exact hcrlf rest rfl rfl

/-- What a unified text begins with, the text itself begins with. -/
theorem exists_cut (h : u <+: t.unifyTerminators) :
    ∃ x y, t = x ++ y ∧ x.unifyTerminators = u ∧ Cut x y := by
  fun_induction unifyTerminators t generalizing u with
  | case1 => exact ⟨[], [], rfl, (List.prefix_nil.1 h).symm, cut_nil_left _⟩
  | case2 rest ih =>
    cases u with
    | nil => exact ⟨[], _, rfl, rfl, cut_nil_left _⟩
    | cons c u =>
      obtain ⟨rfl, htail⟩ := List.cons_prefix_cons.1 h
      obtain ⟨x, y, rfl, rfl, hcut⟩ := ih htail
      refine ⟨'\r' :: '\n' :: x, y, rfl, rfl, fun hlast => ?_⟩
      cases x with
      | nil => cases hlast
      | cons z x => exact hcut (by simpa using hlast)
  | case3 c rest hcrlf ih =>
    cases u with
    | nil => exact ⟨[], _, rfl, rfl, cut_nil_left _⟩
    | cons d u =>
      obtain ⟨rfl, htail⟩ := List.cons_prefix_cons.1 h
      obtain ⟨x, y, rfl, rfl, hcut⟩ := ih htail
      refine ⟨c :: x, y, rfl, ?_, fun hlast hhead => ?_⟩
      · rw [unifyTerminators]
        rintro more rfl rfl
        exact hcrlf _ rfl rfl
      · cases x with
        | nil =>
          obtain rfl : c = '\r' := Option.some.inj hlast
          obtain ⟨z, rfl⟩ : ∃ z, y = '\n' :: z := List.head?_eq_some_iff.1 hhead
          exact hcrlf z rfl rfl
        | cons z x => exact hcut (by simpa using hlast) hhead

end Text

namespace Position

open Text (Cut)

variable {x y text : Text} {p : Position} {i j : Nat}

/-- Behind the first part of a text comes where it is cut. -/
theorem StandsAt.after_cut {u : Text} (hp : p.StandsAt (u ++ (x ++ y)) u.length) (h : Cut x y) :
    (p.after x.unifyTerminators).StandsAt (u ++ (x ++ y)) (u ++ x).length := by
  -- The induction follows the scan; a terminator of either width ends one line.
  fun_induction Text.unifyTerminators x generalizing u p with
  | case1 =>
    rw [List.append_nil]
    exact hp
  | case2 rest ih =>
    have hnext : (p.next '\n').StandsAt (u ++ '\r' :: '\n' :: (rest ++ y)) (u.length + 2) := by
      refine StandsAt.next_line hp ?_ (by omega) ?_ ?_
      · simpa using Text.beginsLine_after_lf (u ++ ['\r']) (rest ++ y)
      · simp only [List.length_append, List.length_cons]
        omega
      · intro k hk hk'
        obtain rfl : k = u.length + 1 := by omega
        exact Text.not_beginsLine_in_crlf u (rest ++ y)
    have hbehind := ih (u := u ++ ['\r', '\n']) (p := p.next '\n')
      (by simpa using hnext) h.tail.tail
    show ((p.next '\n').after _).StandsAt _ _
    simpa using hbehind
  | case3 c rest hcrlf ih =>
    have hnot : ∀ more, c = '\r' → rest ++ y ≠ '\n' :: more := by
      rintro more rfl hmore
      cases rest with
      | nil => exact h rfl (by rw [← List.nil_append y, hmore]; rfl)
      | cons z rest =>
        obtain ⟨rfl, -⟩ := List.cons.inj hmore
        exact hcrlf rest rfl rfl
    have hnext : (p.next (if c = '\r' then '\n' else c)).StandsAt (u ++ c :: (rest ++ y))
        (u.length + 1) := by
      by_cases hc : c = '\r' ∨ c = '\n'
      · have hbreak : (if c = '\r' then '\n' else c) = '\n' := by
          rcases hc with rfl | rfl <;> rfl
        rw [hbreak]
        refine StandsAt.next_line hp ((Text.beginsLine_after_iff u hnot).2 hc) (by omega) ?_ ?_
        · simp only [List.length_append, List.length_cons]
          omega
        · intro k hk hk'
          omega
      · obtain ⟨hreturn, hbreak⟩ := not_or.1 hc
        rw [if_neg hreturn]
        exact StandsAt.next hp (by simp) ⟨hreturn, hbreak⟩
    have hbehind := ih (u := u ++ [c]) (by simpa using hnext) h.tail
    show ((p.next (if c = '\r' then '\n' else c)).after _).StandsAt _ _
    simpa using hbehind

/-- The position behind the first part of a text stands where the text is cut. -/
theorem standsAt_of_cut (h : Cut x y) :
    (origin.after x.unifyTerminators).StandsAt (x ++ y) x.length :=
  (origin_standsAt _).after_cut (u := []) h

/-- A position stands at one offset. -/
theorem StandsAt.offset_unique (h : p.StandsAt text i) (h' : p.StandsAt text j) : i = j := by
  have hoffset := h.offset []
  rw [h'.offset []] at hoffset
  exact (Except.ok.inj hoffset).symm

theorem StandsAt.eq_iff {q : Position} (hp : p.StandsAt text i) (hq : q.StandsAt text j) :
    p = q ↔ i = j := by
  constructor
  · rintro rfl
    exact hp.offset_unique hq
  · rintro rfl
    rcases lt_trichotomy p q with hlt | heq | hlt
    · exact absurd (hp.lt_of_lt hq hlt) (Nat.lt_irrefl i)
    · exact heq
    · exact absurd (hq.lt_of_lt hp hlt) (Nat.lt_irrefl i)

/-- Where a position of a unified text stands, the text itself is cut. -/
theorem cut_of_standsAt {u : Text} (hu : u <+: text.unifyTerminators)
    (h : (origin.after u).StandsAt text i) :
    Text.unifyTerminators (text.take i) = u ∧ Cut (text.take i) (text.drop i) := by
  obtain ⟨x, y, rfl, rfl, hcut⟩ := Text.exists_cut hu
  obtain rfl := h.offset_unique (standsAt_of_cut hcut)
  rw [List.take_left, List.drop_left]
  exact ⟨rfl, hcut⟩

/-- Of two beginnings of a text, the one that ends first is a beginning of the other. -/
theorem prefix_of_after_le {t u v : Text} (hu : u <+: t) (hv : v <+: t)
    (hle : p.after u ≤ p.after v) : u <+: v := by
  rcases List.prefix_or_prefix_of_prefix hu hv with h | ⟨x, rfl⟩
  · exact h
  · have hnil : x = [] := by
      by_contra hne
      rw [after_append] at hle
      exact absurd (lt_after hne) (not_lt.2 hle)
    rw [hnil, List.append_nil]

/-- Where a position in the first part of a text stands does not depend on the second. -/
theorem exists_standsAt_front {v : Text} (hv : v <+: x.unifyTerminators) :
    ∃ k ≤ x.length, ∀ y, Cut x y → (origin.after v).StandsAt (x ++ y) k := by
  obtain ⟨x₁, x₂, rfl, rfl, hcut⟩ := Text.exists_cut hv
  refine ⟨x₁.length, (List.length_append ..).symm ▸ Nat.le_add_right .., fun y hy => ?_⟩
  rw [List.append_assoc]
  refine standsAt_of_cut ?_
  cases x₂ with
  | nil => simpa using hy
  | cons c x₂ => exact hcut.append_right (List.cons_ne_nil c x₂) y

/-- How far behind the first part of a text a position in the second one stands does not
depend on the first. -/
theorem exists_standsAt_behind {v : Text} (hv : v <+: y.unifyTerminators) :
    ∃ k, ∀ x, Cut x y →
      (origin.after (x.unifyTerminators ++ v)).StandsAt (x ++ y) (x.length + k) := by
  obtain ⟨y₁, y₂, rfl, rfl, hcut⟩ := Text.exists_cut hv
  refine ⟨y₁.length, fun x hx => ?_⟩
  have hfront : Cut x y₁ := by
    cases y₁ with
    | nil => exact fun _ => nofun
    | cons c y₁ => exact hx
  have hwhole : Cut (x ++ y₁) y₂ := by
    cases y₁ with
    | nil => simpa using hx
    | cons c y₁ => exact hcut.append_left (List.cons_ne_nil c y₁) x
  rw [← Text.unifyTerminators_append hfront, ← List.append_assoc, ← List.length_append]
  exact standsAt_of_cut hwhole

end Position

end TextDomain
