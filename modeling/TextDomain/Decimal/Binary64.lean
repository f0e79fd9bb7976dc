/-!
# Double-precision numbers

A finite double is a whole number `mantissa` times a power of two; rounding is
done in exact arithmetic on natural numbers, so nothing here rests on machine
floating point.

Every finite value built here is in normal form: `mantissa < 2 ^ 53`, the
exponent is at least `-1074`, and the mantissa is at least `2 ^ 52` unless the
exponent is `-1074`. Equal numbers are therefore equal values, a zero of either
sign apart.
-/

namespace TextDomain

/-- A double-precision number. -/
inductive Binary64 where
  /-- `mantissa · 2 ^ exponent`, negated if `negative`. -/
  | finite (negative : Bool) (mantissa : Nat) (exponent : Int)
  /-- An infinity. -/
  | infinite (negative : Bool)
  /-- Not a number. -/
  | nan
deriving DecidableEq

namespace Binary64

open Nat (pow)

/-- The zero of the given sign. -/
def zero (negative : Bool) : Binary64 := .finite negative 0 (-1074)

/-- The quotient rounded to the nearest whole number, halves to the even one. -/
def roundQuotient (num den : Nat) : Nat :=
  let q := num / den
  let r := num % den
  if 2 * r < den then q
  else if den < 2 * r then q + 1
  else if q % 2 = 0 then q else q + 1

/-- `num / (den · 2 ^ q)` as a quotient of natural numbers. -/
def scaleBy (num den : Nat) (q : Int) : Nat × Nat :=
  if 0 ≤ q then (num, den * pow 2 q.toNat) else (num * pow 2 (-q).toNat, den)

/-- The double nearest to `num / den`, halves to the even mantissa. -/
def ofQuotient (negative : Bool) (num den : Nat) : Binary64 :=
  if num = 0 ∨ den = 0 then zero negative
  else
    let q₀ : Int := (Nat.log2 num : Int) - Nat.log2 den - 53
    let (n₀, d₀) := scaleBy num den q₀
    let q := max (if pow 2 53 ≤ n₀ / d₀ then q₀ + 1 else q₀) (-1074)
    let (n, d) := scaleBy num den q
    let m := roundQuotient n d
    let (m, q) := if m = pow 2 53 then (pow 2 52, q + 1) else (m, q)
    if 971 < q then .infinite negative else .finite negative m q

/-- The double nearest to `digits · 10 ^ exponent`. Exponents that can only
give zero or an infinity are answered without building the power. -/
def ofDecimal (negative : Bool) (digits : Nat) (exponent : Int) : Binary64 :=
  let magnitude : Int := exponent + (Nat.toDigits 10 digits).length
  if digits = 0 then zero negative
  else if 310 < magnitude then .infinite negative
  else if magnitude < -400 then zero negative
  else if 0 ≤ exponent then ofQuotient negative (digits * pow 10 exponent.toNat) 1
  else ofQuotient negative digits (pow 10 (-exponent).toNat)

/-- The double nearest to a natural number. -/
def ofNat (n : Nat) : Binary64 := ofQuotient false n 1

/-- The number with the opposite sign. -/
def neg : Binary64 → Binary64
  | .finite s m q => .finite (!s) m q
  | .infinite s => .infinite (!s)
  | .nan => .nan

/-- The double nearest to the dyadic number `m · 2 ^ q`. -/
def ofDyadic (negative : Bool) (m : Nat) (q : Int) : Binary64 :=
  if 0 ≤ q then ofQuotient negative (m * pow 2 q.toNat) 1
  else ofQuotient negative m (pow 2 (-q).toNat)

/-- The product, rounded once. -/
def mul : Binary64 → Binary64 → Binary64
  | .finite s m q, .finite s' m' q' => ofDyadic (s != s') (m * m') (q + q')
  | .infinite s, .infinite s' => .infinite (s != s')
  | .infinite s, .finite s' m _ => if m = 0 then .nan else .infinite (s != s')
  | .finite s m _, .infinite s' => if m = 0 then .nan else .infinite (s != s')
  | _, _ => .nan

/-- A finite number as a signed multiple of `2 ^ q`, for `q` at most its
exponent. -/
def multipleOf (s : Bool) (m : Nat) (e q : Int) : Int :=
  let n : Int := (m * pow 2 (e - q).toNat : Nat)
  if s then -n else n

/-- The sum, rounded once. -/
def add : Binary64 → Binary64 → Binary64
  | .finite s m q, .finite s' m' q' =>
    let e := min q q'
    let total := multipleOf s m q e + multipleOf s' m' q' e
    if total = 0 then zero (s && s') else ofDyadic (decide (total < 0)) total.natAbs e
  | .infinite s, .infinite s' => if s = s' then .infinite s else .nan
  | .infinite s, .finite .. => .infinite s
  | .finite .., .infinite s => .infinite s
  | _, _ => .nan

/-- The whole number that the double is equal to, if there is one. -/
def toInt? : Binary64 → Option Int
  | .finite s m q =>
    if 0 ≤ q then some (multipleOf s m q 0)
    else
      let d := pow 2 (-q).toNat
      if m % d = 0 then some (if s then -((m / d : Nat) : Int) else (m / d : Nat)) else none
  | _ => none

/-- Numeric equality: the two zeros agree, and nothing equals NaN. -/
def same : Binary64 → Binary64 → Bool
  | .finite s m q, .finite s' m' q' => m == m' && q == q' && (s == s' || m == 0)
  | .infinite s, .infinite s' => s == s'
  | _, _ => false

end Binary64

end TextDomain
