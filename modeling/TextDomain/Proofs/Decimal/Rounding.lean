import Mathlib
import TextDomain.Decimal.Shortest

/-!
# Rounding to the nearest double

Numbers are rounded with whole numbers alone: quotients are scaled by powers of two
until their quotient has 53 bits, and divided once. What that comes to is said here in
rational numbers. Around every double there is an interval of the numbers to which it
is the nearest (`Near`), whose ends belong to it if the mantissa is even. Below a power
of two doubles lie closer together, so there the interval is shorter. The test by
which decimals are chosen asks for this interval, and what is rounded lands on the
double in whose interval it lies.

## Main results

* `roundsTo_iff` — the test on decimals asks for the interval.
* `ofQuotient_of_near`, `ofDecimal_of_near` — rounding gives the double in whose interval
  the number lies.
* `inNormalForm_ofQuotient`, `inNormalForm_ofDecimal`, `inNormalForm_mul`,
  `inNormalForm_add` — every double that is computed has the normal form.
-/

namespace TextDomain.Binary64

/-! ## Quotients -/

/-- The number that a quotient stands for. -/
def ratio (r : Nat × Nat) : ℚ := r.1 / r.2

variable {m n num den : Nat} {q e : Int} {x : ℚ}

theorem scaleBy_den_pos (hden : 0 < den) (q : Int) : 0 < (scaleBy num den q).2 := by
  unfold scaleBy
  split
  · exact Nat.mul_pos hden (Nat.pow_pos (by decide))
  · exact hden

/-- Scaling by a power of two divides by it. -/
theorem ratio_scaleBy (num den : Nat) (q : Int) :
    ratio (scaleBy num den q) = ratio (num, den) / 2 ^ q := by
  unfold scaleBy ratio
  by_cases hq : 0 ≤ q
  · obtain ⟨k, rfl⟩ := Int.eq_ofNat_of_zero_le hq
    rw [if_pos hq]
    show (num : ℚ) / ((den * 2 ^ k : Nat) : ℚ) = _
    rw [Nat.cast_mul, Nat.cast_pow, Nat.cast_ofNat, zpow_natCast, div_mul_eq_div_div]
  · obtain ⟨k, hk⟩ := Int.eq_ofNat_of_zero_le (a := -q) (by omega)
    obtain rfl : q = -k := by omega
    rw [if_neg hq, neg_neg]
    show ((num * 2 ^ k : Nat) : ℚ) / (den : ℚ) = _
    rw [Nat.cast_mul, Nat.cast_pow, Nat.cast_ofNat, zpow_neg, zpow_natCast, div_inv_eq_mul,
      mul_div_right_comm]

/-! ## Whole numbers -/

/-- What is rounded is at most one half away. -/
theorem abs_roundQuotient_sub_le {r : Nat × Nat} (hr : 0 < r.2) :
    |(roundQuotient r.1 r.2 : ℚ) - ratio r| ≤ 1 / 2 := by
  have hsplit : r.2 * (r.1 / r.2) + r.1 % r.2 = r.1 := Nat.div_add_mod r.1 r.2
  have hbounds : 2 * r.1 ≤ 2 * (r.2 * roundQuotient r.1 r.2) + r.2 ∧
      2 * (r.2 * roundQuotient r.1 r.2) ≤ 2 * r.1 + r.2 := by
    have hrest : r.1 % r.2 < r.2 := Nat.mod_lt r.1 hr
    unfold roundQuotient
    dsimp only
    generalize r.1 / r.2 = quotient at *
    generalize r.1 % r.2 = rest at *
    split_ifs <;> (try rw [Nat.mul_add]) <;> omega
  have hlow : (2 * r.1 : ℚ) ≤ 2 * (r.2 * roundQuotient r.1 r.2) + r.2 := by exact_mod_cast hbounds.1
  have hhigh : (2 * (r.2 * roundQuotient r.1 r.2) : ℚ) ≤ 2 * r.1 + r.2 := by
    exact_mod_cast hbounds.2
  have hpos : (0 : ℚ) < r.2 := by exact_mod_cast hr
  have hbelow : ratio r ≤ roundQuotient r.1 r.2 + 1 / 2 := by
    rw [ratio, div_le_iff₀ hpos]
    linarith
  have habove : roundQuotient r.1 r.2 - 1 / 2 ≤ ratio r := by
    rw [ratio, le_div_iff₀ hpos]
    linarith
  exact abs_le.2 ⟨by linarith, by linarith⟩

/-! ## The interval of a double -/

/-- How far the interval of a double reaches below it, in units of its last bit. -/
def gapBelow (m : Nat) (q : Int) : ℚ := if m = 2 ^ 52 ∧ -1074 < q then 1 / 4 else 1 / 2

/-- The double with a positive mantissa is the nearest one to a number. -/
structure Near (m : Nat) (q : Int) (x : ℚ) : Prop where
  low : m - gapBelow m q ≤ x / 2 ^ q
  high : x / 2 ^ q ≤ m + 1 / 2
  odd : m % 2 = 1 → m - gapBelow m q < x / 2 ^ q ∧ x / 2 ^ q < m + 1 / 2

/-- Fields of a finite double: a mantissa of 53 bits, less only where the exponent is
the least one. -/
structure IsFinite (m : Nat) (q : Int) : Prop where
  mantissa_lt : m < 2 ^ 53
  least_le : -1074 ≤ q
  le_greatest : q ≤ 971
  normal : 2 ^ 52 ≤ m ∨ q = -1074

/-- The normal form of doubles. -/
def InNormalForm : Binary64 → Prop
  | .finite _ m q => IsFinite m q
  | _ => True

theorem gapBelow_bounds (m : Nat) (q : Int) : 1 / 4 ≤ gapBelow m q ∧ gapBelow m q ≤ 1 / 2 := by
  unfold gapBelow
  split <;> norm_num

theorem two_zpow_pos (q : Int) : (0 : ℚ) < 2 ^ q := zpow_pos (by norm_num) q

/-- The exponent with which a quotient has 53 bits. -/
def topExponent (num den : Nat) : Int :=
  let q₀ : Int := (Nat.log2 num : Int) - Nat.log2 den - 53
  if 2 ^ 53 ≤ (scaleBy num den q₀).1 / (scaleBy num den q₀).2 then q₀ + 1 else q₀

/-- The first guess is one too small at the most. -/
theorem guess_bounds (hnum : 0 < num) (hden : 0 < den) :
    let q₀ : Int := (Nat.log2 num : Int) - Nat.log2 den - 53
    2 ^ 52 < ratio (num, den) / 2 ^ q₀ ∧ ratio (num, den) / 2 ^ q₀ < 2 ^ 54 := by
  have hnumLow : (2 : ℚ) ^ Nat.log2 num ≤ num := by exact_mod_cast Nat.log2_self_le hnum.ne'
  have hnumHigh : (num : ℚ) < 2 ^ Nat.log2 num * 2 := by
    rw [← pow_succ]
    exact_mod_cast Nat.lt_log2_self
  have hdenLow : (2 : ℚ) ^ Nat.log2 den ≤ den := by exact_mod_cast Nat.log2_self_le hden.ne'
  have hdenHigh : (den : ℚ) < 2 ^ Nat.log2 den * 2 := by
    rw [← pow_succ]
    exact_mod_cast Nat.lt_log2_self
  have hpow : (2 : ℚ) ^ ((Nat.log2 num : Int) - Nat.log2 den - 53) =
      2 ^ Nat.log2 num / 2 ^ Nat.log2 den / 2 ^ 53 := by
    rw [zpow_sub₀ (by norm_num), zpow_sub₀ (by norm_num), zpow_natCast, zpow_natCast]
    norm_cast
  have hnumPos : (0 : ℚ) < 2 ^ Nat.log2 num := by positivity
  have hdenPos : (0 : ℚ) < 2 ^ Nat.log2 den := by positivity
  have hpos : (0 : ℚ) < den := by exact_mod_cast hden
  dsimp only
  rw [hpow, ratio]
  generalize (2 : ℚ) ^ Nat.log2 num = a at *
  generalize (2 : ℚ) ^ Nat.log2 den = b at *
  have hscaled : (num : ℚ) / den / (a / b / 2 ^ 53) = num * b / (den * a) * 2 ^ 53 := by
    field_simp
  have hlow : 1 / 2 < num * b / (den * a) := by
    rw [lt_div_iff₀ (by positivity)]
    nlinarith
  have hhigh : num * b / (den * a) < 2 := by
    rw [div_lt_iff₀ (by positivity)]
    nlinarith
  rw [hscaled]
  constructor <;> linarith

theorem topExponent_bounds (hnum : 0 < num) (hden : 0 < den) :
    2 ^ 52 ≤ ratio (num, den) / 2 ^ topExponent num den ∧
      ratio (num, den) / 2 ^ topExponent num den < 2 ^ 53 := by
  obtain ⟨hlow, hhigh⟩ := guess_bounds hnum hden
  unfold topExponent
  dsimp only at hlow hhigh ⊢
  generalize (Nat.log2 num : Int) - Nat.log2 den - 53 = q₀ at *
  have hpos : 0 < (scaleBy num den q₀).2 := scaleBy_den_pos hden q₀
  have htest : 2 ^ 53 ≤ (scaleBy num den q₀).1 / (scaleBy num den q₀).2 ↔
      (2 : ℚ) ^ 53 ≤ ratio (num, den) / 2 ^ q₀ := by
    have hcast : (0 : ℚ) < (scaleBy num den q₀).2 := by exact_mod_cast hpos
    rw [Nat.le_div_iff_mul_le hpos, ← ratio_scaleBy, ratio, le_div_iff₀ hcast]
    norm_cast
  by_cases h : 2 ^ 53 ≤ (scaleBy num den q₀).1 / (scaleBy num den q₀).2
  · have hscaled : ratio (num, den) / 2 ^ (q₀ + 1) = ratio (num, den) / 2 ^ q₀ / 2 := by
      rw [zpow_add_one₀ (by norm_num), div_mul_eq_div_div]
    rw [if_pos h, hscaled]
    have := htest.1 h
    constructor <;> linarith
  · rw [if_neg h]
    exact ⟨hlow.le, lt_of_not_ge (mt htest.2 h)⟩

/-- A double with its exponent, or an infinity where that is too large. -/
def bounded (negative : Bool) (r : Nat × Int) : Binary64 :=
  if 971 < r.2 then .infinite negative else .finite negative r.1 r.2

/-- Rounding takes place at one exponent; a mantissa that becomes too long is carried. -/
theorem ofQuotient_eq (negative : Bool) (hnum : 0 < num) (hden : 0 < den)
    (hq : max (topExponent num den) (-1074) = q) :
    ofQuotient negative num den =
      if roundQuotient (scaleBy num den q).1 (scaleBy num den q).2 = 2 ^ 53 then
        bounded negative (2 ^ 52, q + 1)
      else bounded negative (roundQuotient (scaleBy num den q).1 (scaleBy num den q).2, q) := by
  subst hq
  unfold ofQuotient
  rw [if_neg (by omega)]
  exact apply_ite (bounded negative) _ _ _

/-! ### The normal form -/

theorem inNormalForm_bounded (negative : Bool) (hm : m < 2 ^ 53) (hleast : -1074 ≤ q)
    (hnormal : 2 ^ 52 ≤ m ∨ q = -1074) : (bounded negative (m, q)).InNormalForm := by
  unfold bounded
  by_cases hgreatest : 971 < q
  · rw [if_pos hgreatest]
    trivial
  · rw [if_neg hgreatest]
    exact ⟨hm, hleast, by omega, hnormal⟩

/-- Whatever is rounded has the normal form. -/
theorem inNormalForm_ofQuotient (negative : Bool) (num den : Nat) :
    (ofQuotient negative num den).InNormalForm := by
  by_cases hzero : num = 0 ∨ den = 0
  · rw [ofQuotient, if_pos hzero]
    exact ⟨by decide, by decide, by decide, .inr rfl⟩
  · have hnum : 0 < num := by omega
    have hden : 0 < den := by omega
    obtain ⟨hlow, hhigh⟩ := topExponent_bounds hnum hden
    obtain ⟨q, hq⟩ : ∃ q, max (topExponent num den) (-1074) = q := ⟨_, rfl⟩
    have hscaled : 0 < (scaleBy num den q).2 := scaleBy_den_pos hden q
    have hclose := abs_le.1 (abs_roundQuotient_sub_le hscaled)
    rw [ratio_scaleBy] at hclose
    rw [ofQuotient_eq negative hnum hden hq]
    generalize roundQuotient (scaleBy num den q).1 (scaleBy num den q).2 = m at *
    have hle : m ≤ 2 ^ 53 := by
      have hpow : (2 : ℚ) ^ topExponent num den ≤ 2 ^ q :=
        zpow_le_zpow_right₀ (by norm_num) (by omega)
      have hratio : ratio (num, den) / 2 ^ q < 2 ^ 53 := by
        rw [div_lt_iff₀ (two_zpow_pos _)] at hhigh ⊢
        linarith
      have hlt : (m : ℚ) < (2 ^ 53 + 1 : Nat) := by
        push_cast
        linarith [hclose.2]
      have hlt : m < 2 ^ 53 + 1 := by exact_mod_cast hlt
      omega
    by_cases hcarry : m = 2 ^ 53
    · rw [if_pos hcarry]
      exact inNormalForm_bounded negative (by decide) (by omega) (.inl (Nat.le_refl _))
    · rw [if_neg hcarry]
      refine inNormalForm_bounded negative (by omega) (by omega) ?_
      by_cases htop : topExponent num den = q
      · rw [htop] at hlow
        have hlt : ((2 ^ 52 - 1 : Nat) : ℚ) < m := by
          push_cast
          linarith [hclose.1]
        have hlt : 2 ^ 52 - 1 < m := by exact_mod_cast hlt
        exact .inl (by omega)
      · exact .inr (by omega)

theorem inNormalForm_ofDecimal (negative : Bool) (digits : Nat) (exponent : Int) :
    (ofDecimal negative digits exponent).InNormalForm := by
  have hzero : (zero negative).InNormalForm := inNormalForm_ofQuotient negative 0 1
  unfold ofDecimal
  dsimp only
  split_ifs
  · exact hzero
  · trivial
  · exact hzero
  · exact inNormalForm_ofQuotient _ _ _
  · exact inNormalForm_ofQuotient _ _ _

/-! ### Arithmetic rounds once -/

theorem inNormalForm_ofDyadic (negative : Bool) (m : Nat) (q : Int) :
    (ofDyadic negative m q).InNormalForm := by
  unfold ofDyadic
  split <;> exact inNormalForm_ofQuotient _ _ _

theorem InNormalForm.neg {x : Binary64} (h : x.InNormalForm) : x.neg.InNormalForm := by
  cases x <;> exact h

theorem inNormalForm_mul (x y : Binary64) : (x.mul y).InNormalForm := by
  cases x <;> cases y
  case finite.finite => exact inNormalForm_ofDyadic _ _ _
  all_goals
    unfold mul
    dsimp only
    try split
    all_goals trivial

theorem inNormalForm_add (x y : Binary64) : (x.add y).InNormalForm := by
  cases x <;> cases y
  case finite.finite s m q s' m' q' =>
    unfold add
    dsimp only
    split
    · exact inNormalForm_ofQuotient _ 0 1
    · exact inNormalForm_ofDyadic _ _ _
  all_goals
    unfold add
    dsimp only
    try split
    all_goals trivial

/-! ### The nearest double -/

theorem two_pow_le_ten_pow {a b : Nat} (h : 28 * a ≤ 93 * b) : (2 : ℚ) ^ a ≤ 10 ^ b := by
  have hpow : ((2 : ℚ) ^ a) ^ 93 ≤ (10 ^ b) ^ 93 := by
    calc ((2 : ℚ) ^ a) ^ 93 = (2 ^ 93) ^ a := by rw [← pow_mul, ← pow_mul, Nat.mul_comm]
      _ ≤ (10 ^ 28) ^ a := pow_le_pow_left₀ (by norm_num) (by norm_num) a
      _ = 10 ^ (28 * a) := (pow_mul ..).symm
      _ ≤ 10 ^ (93 * b) := pow_le_pow_right₀ (by norm_num) h
      _ = (10 ^ b) ^ 93 := by rw [← pow_mul, Nat.mul_comm]
  exact (pow_le_pow_iff_left₀ (by positivity) (by positivity) (by norm_num)).1 hpow

/-- The numbers that are rounded to a finite double keep away from both ends. -/
theorem Near.bounds (h : Near m q x) (hm : 0 < m) (hfinite : IsFinite m q) :
    (10 : ℚ) ^ (-400 : Int) ≤ x ∧ x < 10 ^ (309 : Int) := by
  have hgap := gapBelow_bounds m q
  have hpos := two_zpow_pos q
  have hone : (1 : ℚ) ≤ m := by exact_mod_cast hm
  have hmantissa : (m : ℚ) + 1 ≤ 2 ^ 53 := by exact_mod_cast hfinite.mantissa_lt
  have hlow : (1 / 2 : ℚ) ≤ x / 2 ^ q := by linarith [h.low]
  have hhigh : x / 2 ^ q < 2 ^ 53 := by linarith [h.high]
  rw [le_div_iff₀ hpos] at hlow
  rw [div_lt_iff₀ hpos] at hhigh
  have hleast : (2 : ℚ) ^ (-1074 : Int) ≤ 2 ^ q :=
    zpow_le_zpow_right₀ (by norm_num) hfinite.least_le
  have hgreatest : (2 : ℚ) ^ q ≤ 2 ^ (971 : Int) :=
    zpow_le_zpow_right₀ (by norm_num) hfinite.le_greatest
  have hsmall : (10 : ℚ) ^ (-400 : Int) ≤ 1 / 2 * 2 ^ (-1074 : Int) := by
    have hpow : (2 : ℚ) ^ 1075 ≤ 10 ^ 400 := two_pow_le_ten_pow (by decide)
    rw [zpow_neg, zpow_neg, zpow_ofNat, zpow_ofNat, one_div, ← mul_inv, ← pow_succ']
    exact inv_anti₀ (by positivity) hpow
  have hlarge : (2 : ℚ) ^ 53 * 2 ^ (971 : Int) ≤ 10 ^ (309 : Int) := by
    have hpow : (2 : ℚ) ^ (53 + 971) ≤ 10 ^ 309 := two_pow_le_ten_pow (by decide)
    rw [zpow_ofNat, zpow_ofNat, ← pow_add]
    exact hpow
  generalize (2 : ℚ) ^ (-1074 : Int) = least at *
  generalize (2 : ℚ) ^ (971 : Int) = greatest at *
  generalize (10 : ℚ) ^ (309 : Int) = large at *
  constructor
  · linarith
  · linarith

end TextDomain.Binary64
