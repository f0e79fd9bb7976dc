import TextDomain.Decimal.Binary64
import TextDomain.Text.Basic

/-!
# The shortest decimal that reads back

A finite double is written with the fewest significant digits for which no
other double is nearer; among the decimals of that length the nearest is
taken, and of two equally near ones the one whose last digit is even.

The search tries one digit, two digits and so on. With `k` digits the two
multiples of the decimal unit around the number are the only candidates:
if any multiple lies in the interval that rounds to the number, one of these
two does.
-/

namespace TextDomain.Binary64

/-- Significant digits, as a whole number without trailing zeros, and the
power of ten of the place before the first of them: `⟨125, 2⟩` is `12.5`. -/
structure Digits where
  /-- The digits, read as a whole number. -/
  digits : Nat
  /-- How many of them stand before the point; it may be negative or exceed
  their number. -/
  point : Int

/-- A dyadic or decimal multiple as a quotient: `m · base ^ e`. -/
def quotientOf (base m : Nat) (e : Int) : Nat × Nat :=
  if 0 ≤ e then (m * base.pow e.toNat, 1) else (m, base.pow (-e).toNat)

/-- The comparison of two quotients. -/
def quotientLe (a b : Nat × Nat) : Bool := decide (a.1 * b.2 ≤ b.1 * a.2)

/-- Whether a decimal rounds to the double `m · 2 ^ q`: it lies between the
midpoints to the neighbours, which themselves belong to the even mantissa. -/
def roundsTo (m : Nat) (q : Int) (decimal : Nat × Nat) : Bool :=
  let low :=
    if m = Nat.pow 2 52 ∧ -1074 < q then quotientOf 2 (4 * m - 1) (q - 2)
    else quotientOf 2 (2 * m - 1) (q - 1)
  let high := quotientOf 2 (2 * m + 1) (q - 1)
  if m % 2 = 0 then quotientLe low decimal && quotientLe decimal high
  else !quotientLe decimal low && !quotientLe high decimal

/-- The least `k` with `value < 10 ^ k`, starting the search at `k`. -/
def decimalPoint (value : Nat × Nat) : Nat → Int → Int
  | 0, k => k
  | fuel + 1, k => if quotientLe (quotientOf 10 1 k) value then decimalPoint value fuel (k + 1) else k

/-- A whole number without its trailing zeros. -/
def stripZeros : Nat → Nat → Nat
  | 0, n => n
  | fuel + 1, n => if n % 10 = 0 ∧ n ≠ 0 then stripZeros fuel (n / 10) else n

/-- The candidates with `count` digits that round to the double, the better
one first. -/
def candidate? (m : Nat) (q : Int) (value : Nat × Nat) (point : Int) (count : Nat) :
    Option Digits :=
  let unit := point - count
  let (un, ud) := quotientOf 10 1 unit
  let num := value.1 * ud
  let den := value.2 * un
  let below := num / den
  let above := below + 1
  let hit (n : Nat) : Bool := n != 0 && roundsTo m q (quotientOf 10 n unit)
  let digitsOf (n : Nat) : Digits :=
    ⟨stripZeros 20 n, unit + (Nat.toDigits 10 n).length⟩
  let nearest := if roundQuotient num den = below then below else above
  let other := if nearest = below then above else below
  if hit nearest then some (digitsOf nearest)
  else if hit other then some (digitsOf other)
  else none

/-- The first count of digits that gives a candidate. -/
def searchDigits (m : Nat) (q : Int) (value : Nat × Nat) (point : Int) : Nat → Nat → Digits
  | 0, count => (candidate? m q value point count).getD ⟨m, point⟩
  | fuel + 1, count =>
    match candidate? m q value point count with
    | some d => d
    | none => searchDigits m q value point fuel (count + 1)

/-- The shortest digits of the positive double `m · 2 ^ q`. -/
def shortest (m : Nat) (q : Int) : Digits :=
  let value := quotientOf 2 m q
  let guess : Int := ((Nat.log2 m : Int) + q) * 30103 / 100000 - 1
  searchDigits m q value (decimalPoint value 6 guess) 17 1

/-- How a double is written: positionally from `1e-4` up to below `1e16`, else
with one digit before the point and a signed exponent of at least two digits.
A whole number in positional form keeps a zero after its point. -/
def layout (d : Digits) : Text :=
  let digits := Text.ofNat d.digits
  let count : Int := digits.length
  if -4 < d.point ∧ d.point ≤ 16 then
    if d.point ≤ 0 then
      ['0', '.'] ++ List.replicate (-d.point).toNat '0' ++ digits
    else if d.point < count then
      digits.take d.point.toNat ++ '.' :: digits.drop d.point.toNat
    else digits ++ List.replicate (d.point - count).toNat '0' ++ ['.', '0']
  else
    let e := d.point - 1
    let rest := digits.drop 1
    digits.take 1 ++ (if rest.isEmpty then [] else '.' :: rest) ++
      ['e', if e < 0 then '-' else '+'] ++ Text.ofNatPadded 2 e.natAbs

/-- The text of a double, with the given words for what is not finite. -/
def written (x : Binary64) (infinity notANumber : Text) : Text :=
  match x with
  | .finite s m q =>
    (if s then ['-'] else []) ++ (if m = 0 then ['0', '.', '0'] else layout (shortest m q))
  | .infinite s => (if s then ['-'] else []) ++ infinity
  | .nan => notANumber

/-- The text of a double inside messages. -/
def text (x : Binary64) : Text := x.written "inf".toList "nan".toList

end TextDomain.Binary64
