import TextDomain.Text.CompatibilityData

/-!
# Compatibility normal form

Two spellings of an identifier name the same thing when their compatibility
normal forms (NFKC of Unicode 14) agree: a full-width letter is the letter, an
accent written as a combining mark joins its base. The form is reached in
three steps.

1. Every character is replaced by its full compatibility decomposition;
   Hangul syllables are taken apart by arithmetic.
2. Runs of combining marks are sorted by their class, stably.
3. Each mark joins the last base before it when the pair has a composite and
   nothing of the same or a higher class stands between.

The tables hold what can occur in an identifier. A text of ASCII is its own
normal form.
-/

namespace TextDomain.Text

open Compatibility

/-! ## Decomposition -/

/-- The Hangul syllable with the given index among all syllables, taken apart
into its two or three letters. -/
def hangulLetters (index : Nat) : List Nat :=
  let lead := 0x1100 + index / 588
  let vowel := 0x1161 + index % 588 / 28
  if index % 28 = 0 then [lead, vowel] else [lead, vowel, 0x11A7 + index % 28]

/-- The full compatibility decomposition of a code point. -/
def decompose (n : Nat) : List Nat :=
  if n < 0x80 then [n]
  else if 0xAC00 ≤ n ∧ n ≤ 0xD7A3 then hangulLetters (n - 0xAC00)
  else
    match decompositions.find? fun d => decide (d.first ≤ n ∧ n < d.first + d.count) with
    | some d => d.image.map (· + (n - d.first))
    | none => [n]

/-! ## Order of marks -/

/-- The canonical combining class; zero for everything that is no mark. -/
def combiningClass (n : Nat) : Nat :=
  if n < 0x80 then 0
  else
    match combiningClasses.find? fun k => decide (k.least ≤ n ∧ n ≤ k.greatest) with
    | some k => k.value
    | none => 0

/-- Puts a mark into a sequence of code points whose marks are in order: it
moves left past the marks of a higher class, never past a base. `done` is the
sequence read backwards. -/
def insertMark (n cls : Nat) : List (Nat × Nat) → List (Nat × Nat)
  | [] => [(n, cls)]
  | (m, k) :: done =>
    if cls ≠ 0 ∧ cls < k then (m, k) :: insertMark n cls done else (n, cls) :: (m, k) :: done

/-- The code points with their classes, every run of marks in ascending order
of class. -/
def orderMarks (ns : List Nat) : List (Nat × Nat) :=
  (ns.foldl (fun done n => insertMark n (combiningClass n) done) []).reverse

/-! ## Composition -/

/-- The composite of two code points, if they have one. -/
def composite? (a b : Nat) : Option Nat :=
  if 0x1100 ≤ a ∧ a ≤ 0x1112 ∧ 0x1161 ≤ b ∧ b ≤ 0x1175 then
    some (0xAC00 + ((a - 0x1100) * 21 + (b - 0x1161)) * 28)
  else if 0xAC00 ≤ a ∧ a ≤ 0xD7A3 ∧ (a - 0xAC00) % 28 = 0 ∧ 0x11A8 ≤ b ∧ b ≤ 0x11C2 then
    some (a + (b - 0x11A7))
  else (composites.find? fun c => c.first == a && c.second == b).map (·.whole)

/-- The state of composition: the code points before the last base, that base,
and the marks kept after it with their classes (both lists read backwards). -/
structure Composing where
  /-- What is finished, read backwards. -/
  done : List Nat
  /-- The base that later marks may still join. -/
  base : Option Nat
  /-- The marks that follow the base and have not joined it, read backwards. -/
  marks : List (Nat × Nat)

/-- All code points of the state, read backwards. -/
def Composing.all (s : Composing) : List Nat :=
  s.marks.map (·.1) ++ s.base.toList ++ s.done

/-- Takes in one more code point. -/
def Composing.add (s : Composing) (n cls : Nat) : Composing :=
  let blocked := match s.marks with
    | [] => false
    | (_, k) :: _ => k == 0 || decide (cls ≤ k)
  match s.base, (if blocked then none else s.base.bind (composite? · n)) with
  | some _, some whole => { s with base := some whole }
  | _, _ =>
    if cls = 0 then ⟨s.all, some n, []⟩ else { s with marks := (n, cls) :: s.marks }

/-- Joins marks to their bases. -/
def compose (ns : List (Nat × Nat)) : List Nat :=
  (ns.foldl (fun (s : Composing) m => s.add m.1 m.2) ⟨[], none, []⟩).all.reverse

/-- The compatibility normal form. -/
def normalize (t : Text) : Text :=
  if t.all (·.toNat < 0x80) then t
  else (compose (orderMarks (t.flatMap fun c => decompose c.toNat))).map Char.ofNat

end TextDomain.Text
