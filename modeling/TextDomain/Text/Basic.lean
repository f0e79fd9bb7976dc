import TextDomain.Sort

/-!
# Texts as lists of code points

Every offset, width and column of this library counts code points, so a text
is simply the list of its characters. `String` appears only where a constant
is written down and where a program meets its surroundings.

This module holds the order on texts (by code point, the shorter first when
one begins the other), numerals, and the cutting and joining of texts at a
separator.

## Main results

* `Text.join_cutAt` — cutting at a separator loses nothing: joining the parts
  again gives the text back.
-/

namespace TextDomain

/-- A text is the list of its code points. -/
abbrev Text := List Char

namespace Text

/-! ## Order -/

/-- The order by code point; a text comes before its own extensions. -/
def le : Text → Text → Bool
  | [], _ => true
  | _ :: _, [] => false
  | a :: as, b :: bs => if a = b then le as bs else decide (a.toNat < b.toNat)

/-- The texts in ascending order. -/
def sort (ts : List Text) : List Text := sortBy le ts

/-! ## Numerals -/

/-- The decimal numeral of a natural number. -/
def ofNat (n : Nat) : Text := Nat.toDigits 10 n

/-- The decimal numeral of an integer, a minus sign before the negative ones. -/
def ofInt : Int → Text
  | .ofNat n => ofNat n
  | .negSucc n => '-' :: ofNat (n + 1)

/-- The numeral of `n`, filled up with zeros on the left to `width` digits. -/
def ofNatPadded (width n : Nat) : Text :=
  let digits := ofNat n
  List.replicate (width - digits.length) '0' ++ digits

/-- The value of a hexadecimal digit, in either case. -/
def hexValue? (c : Char) : Option Nat :=
  if '0' ≤ c ∧ c ≤ '9' then some (c.toNat - '0'.toNat)
  else if 'a' ≤ c ∧ c ≤ 'f' then some (c.toNat - 'a'.toNat + 10)
  else if 'A' ≤ c ∧ c ≤ 'F' then some (c.toNat - 'A'.toNat + 10)
  else none

/-- The value of a digit in base `base`, which is at most sixteen. -/
def digitValue? (base : Nat) (c : Char) : Option Nat :=
  match hexValue? c with
  | some v => if v < base then some v else none
  | none => none

/-- The number that a non-empty run of digits of base `base` denotes. -/
def toNat? (base : Nat) (t : Text) : Option Nat :=
  if t.isEmpty then none
  else t.foldl
    (fun acc c => match acc, digitValue? base c with
      | some n, some d => some (n * base + d)
      | _, _ => none)
    (some 0)

/-- `count` hexadecimal digits in lower case, the low end of `n`. -/
def hexDigits (count n : Nat) : Text :=
  let digits := Nat.toDigits 16 n
  List.replicate (count - digits.length) '0' ++ digits

/-! ## Joining and cutting -/

/-- The parts one after another, `separator` between neighbours. -/
def join (separator : Text) : List Text → Text
  | [] => []
  | [t] => t
  | t :: u :: rest => t ++ separator ++ join separator (u :: rest)

/-- The parts of a text between the occurrences of one character; a text
without it is its own only part. -/
def cutAt (separator : Char) : Text → List Text
  | [] => [[]]
  | c :: rest =>
    if c = separator then [] :: cutAt separator rest
    else match cutAt separator rest with
      | [] => [[c]]
      | part :: parts => (c :: part) :: parts

theorem cutAt_ne_nil (separator : Char) (t : Text) : cutAt separator t ≠ [] := by
  cases t with
  | nil => simp [cutAt]
  | cons c rest =>
    simp only [cutAt]
    split
    · simp
    · split <;> simp

/-- Joining the parts at the separator gives the text back. -/
theorem join_cutAt (separator : Char) (t : Text) :
    join [separator] (cutAt separator t) = t := by
  induction t with
  | nil => rfl
  | cons c rest ih =>
    simp only [cutAt]
    split
    next h =>
      subst h
      cases hcut : cutAt c rest with
      | nil => exact absurd hcut (cutAt_ne_nil c rest)
      | cons part parts => rw [hcut] at ih; simp [join, ih]
    next h =>
      split
      next hcut => exact absurd hcut (cutAt_ne_nil separator rest)
      next part parts hcut =>
        rw [hcut] at ih
        cases parts with
        | nil => simpa [join] using ih
        | cons q qs => simpa [join] using ih

/-- Whether `part` begins the text. -/
def startsWith (part t : Text) : Bool := part.isPrefixOf t

/-- Whether `part` ends the text. -/
def endsWith (part t : Text) : Bool := part.isSuffixOf t

/-- Whether `part` occurs somewhere in the text. -/
def occursIn (part : Text) : Text → Bool
  | [] => part.isEmpty
  | c :: rest => startsWith part (c :: rest) || occursIn part rest

/-- ASCII letters in lower case; all other characters stay. -/
def lowerAscii (t : Text) : Text := t.map Char.toLower

end Text

end TextDomain
