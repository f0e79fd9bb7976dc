import TextDomain.Text.Basic

/-!
# Sets of code points

The character properties that this library needs are unions of intervals. A
set is written down as lines of text, its intervals in hexadecimal and in
ascending order, separated by single spaces: `["30-39 5f 61-7a"]`.
-/

namespace TextDomain

/-- A set of code points, as closed intervals in ascending order. -/
structure CodePoints where
  /-- The intervals, each from its least to its greatest member. -/
  intervals : List (Nat × Nat)

namespace CodePoints

/-- The hexadecimal number that a text denotes, zero where it denotes none. -/
def hexNumber (t : Text) : Nat := (Text.toNat? 16 t).getD 0

/-- Reads one interval: `61-7a`, or `5f` for a single code point. -/
def interval (t : Text) : Nat × Nat :=
  match Text.cutAt '-' t with
  | [least, greatest] => (hexNumber least, hexNumber greatest)
  | _ => (hexNumber t, hexNumber t)

/-- Reads a set from its written form. -/
def ofLines (lines : List String) : CodePoints :=
  ⟨lines.flatMap fun line => (Text.cutAt ' ' line.toList).map interval⟩

/-- Whether the code point `n` lies in one of the intervals. -/
def contains (set : CodePoints) (n : Nat) : Bool :=
  set.intervals.any fun (least, greatest) => decide (least ≤ n ∧ n ≤ greatest)

end CodePoints

end TextDomain
