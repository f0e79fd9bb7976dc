/-!
# Stable sorting

Insertion sort by a Boolean comparison. It is stable: elements that compare
equal keep the order in which they were listed, which is what decides between
two fixes of one range and between two calls of one range.

## Main results

* `sortBy_perm` — sorting only rearranges.
* `mem_sortBy` — hence membership is unchanged.
* `pairwise_sortBy` — the result is in ascending order.
* `sortBy_eq_self` — what is in ascending order stays as it is.
* `find?_sortBy` — the first of the elements that compare equal stays the first.
* `sortBy_map` — what keeps the comparison keeps the order.
-/

namespace TextDomain

variable {α : Type}

/-- Puts `x` before the first element that it may precede. -/
def insertBy (le : α → α → Bool) (x : α) : List α → List α
  | [] => [x]
  | y :: ys => if le x y then x :: y :: ys else y :: insertBy le x ys

/-- The list in ascending order; equal elements keep their order. -/
def sortBy (le : α → α → Bool) : List α → List α
  | [] => []
  | x :: xs => insertBy le x (sortBy le xs)

theorem insertBy_perm (le : α → α → Bool) (x : α) (ys : List α) :
    (insertBy le x ys).Perm (x :: ys) := by
  induction ys with
  | nil => exact .refl _
  | cons y ys ih =>
    simp only [insertBy]
    split
    · exact .refl _
    · exact (ih.cons y).trans (.swap x y ys)

theorem pairwise_insertBy {le : α → α → Bool}
    (htotal : ∀ a b, le a b = true ∨ le b a = true)
    (htrans : ∀ a b c, le a b = true → le b c = true → le a c = true) (x : α) {ys : List α}
    (h : ys.Pairwise (le · · = true)) : (insertBy le x ys).Pairwise (le · · = true) := by
  induction ys with
  | nil => exact List.pairwise_singleton _ x
  | cons y ys ih =>
    obtain ⟨hy, hys⟩ := List.pairwise_cons.1 h
    simp only [insertBy]
    split
    next hxy =>
      refine List.pairwise_cons.2 ⟨?_, h⟩
      intro z hz
      rcases List.mem_cons.1 hz with rfl | hz
      · exact hxy
      · exact htrans x y z hxy (hy z hz)
    next hxy =>
      refine List.pairwise_cons.2 ⟨?_, ih hys⟩
      intro z hz
      rcases List.mem_cons.1 ((insertBy_perm le x ys).mem_iff.1 hz) with rfl | hz
      · exact (htotal z y).resolve_left hxy
      · exact hy z hz

/-- Sorting only rearranges. -/
theorem sortBy_perm (le : α → α → Bool) (xs : List α) : (sortBy le xs).Perm xs := by
  induction xs with
  | nil => exact .refl _
  | cons x xs ih => exact (insertBy_perm le x _).trans (ih.cons x)

@[simp] theorem mem_sortBy {le : α → α → Bool} {x : α} {xs : List α} :
    x ∈ sortBy le xs ↔ x ∈ xs :=
  (sortBy_perm le xs).mem_iff

/-- By a total order the result is in ascending order. -/
theorem pairwise_sortBy {le : α → α → Bool}
    (htotal : ∀ a b, le a b = true ∨ le b a = true)
    (htrans : ∀ a b c, le a b = true → le b c = true → le a c = true) (xs : List α) :
    (sortBy le xs).Pairwise (le · · = true) := by
  induction xs with
  | nil => exact .nil
  | cons x xs ih => exact pairwise_insertBy htotal htrans x ih

@[simp] theorem length_sortBy (le : α → α → Bool) (xs : List α) :
    (sortBy le xs).length = xs.length :=
  (sortBy_perm le xs).length_eq

/-- What is in ascending order stays as it is. -/
theorem sortBy_eq_self {le : α → α → Bool} {xs : List α} (h : xs.Pairwise (le · · = true)) :
    sortBy le xs = xs := by
  induction xs with
  | nil => rfl
  | cons x xs ih =>
    obtain ⟨hx, hxs⟩ := List.pairwise_cons.1 h
    rw [sortBy, ih hxs]
    cases xs with
    | nil => rfl
    | cons y ys => rw [insertBy, if_pos (hx y (List.mem_cons_self ..))]

/-! ## Stability -/

theorem find?_insertBy {le : α → α → Bool} {p : α → Bool}
    (hequal : ∀ a b, p a = true → p b = true → le a b = true) (x : α) (ys : List α) :
    (insertBy le x ys).find? p = (x :: ys).find? p := by
  induction ys with
  | nil => rfl
  | cons y ys ih =>
    simp only [insertBy]
    by_cases hle : le x y = true
    · rw [if_pos hle]
    · rw [if_neg hle, List.find?_cons, ih]
      -- The element that is passed by does not compare equal to the new one.
      by_cases hx : p x = true
      · have hy : p y = false := Bool.eq_false_iff.2 fun hy => hle (hequal x y hx hy)
        simp only [List.find?_cons, hx, hy]
      · simp only [List.find?_cons, hx]

/-- Of the elements that a predicate picks out, all of which compare equal, the one that
is listed first comes first. -/
theorem find?_sortBy {le : α → α → Bool} {p : α → Bool}
    (hequal : ∀ a b, p a = true → p b = true → le a b = true) (xs : List α) :
    (sortBy le xs).find? p = xs.find? p := by
  induction xs with
  | nil => rfl
  | cons x xs ih => rw [sortBy, find?_insertBy hequal, List.find?_cons, List.find?_cons, ih]

/-! ## Renaming -/

theorem insertBy_map {β : Type} {le : α → α → Bool} {le' : β → β → Bool} {φ : α → β}
    (h : ∀ a b, le' (φ a) (φ b) = le a b) (x : α) (l : List α) :
    insertBy le' (φ x) (l.map φ) = (insertBy le x l).map φ := by
  induction l with
  | nil => rfl
  | cons y rest ih =>
    simp only [List.map_cons, insertBy, h]
    split
    · rfl
    · rw [ih, List.map_cons]

/-- A function that keeps the comparison keeps the order. -/
theorem sortBy_map {β : Type} {le : α → α → Bool} {le' : β → β → Bool} {φ : α → β}
    (h : ∀ a b, le' (φ a) (φ b) = le a b) (l : List α) :
    sortBy le' (l.map φ) = (sortBy le l).map φ := by
  induction l with
  | nil => rfl
  | cons x rest ih => rw [List.map_cons, sortBy, ih, insertBy_map h, sortBy]

end TextDomain
