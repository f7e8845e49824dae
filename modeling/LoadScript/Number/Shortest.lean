import LoadScript.Number.Binary64

/-!
# The shortest decimal that reads back

Among the decimals that round to a given double there is a least number of digits; of the decimals
with that many digits the nearest is chosen. For each number of digits only the two neighbours of
the double on that decimal grid matter: if any point of the grid rounds to the double, so does one
of these two.
-/

namespace LoadScript.Binary64

/-- The `k` with `10 ^ k ≤ num / den < 10 ^ (k + 1)`, for positive `num` and `den`. -/
def floorLog10 (num den : Nat) : Int :=
  let guess : Int := Int.ofNat (decimalLength num) - Int.ofNat (decimalLength den)
  let shifted := scaleDown 10 num den guess
  if shifted.1 < shifted.2 then guess - 1 else guess

/-- The decimal that rounds to `x` on the grid of the multiples of `10 ^ exponent`: the nearer one
if both neighbours of `x` do, and of two equally near ones the even one. -/
def decimalOnGrid? (x : Binary64) (exponent : Int) : Option Decimal :=
  let (num, den) := scaleDown 10 x.fraction.1 x.fraction.2 exponent
  let below : Decimal := ⟨num / den, exponent⟩
  let above : Decimal := ⟨num / den + 1, exponent⟩
  let nearer : Decimal := ⟨nearestInteger num den, exponent⟩
  if ofDecimal? x.negative nearer = some x then some nearer
  else if ofDecimal? x.negative below = some x then some below
  else if ofDecimal? x.negative above = some x then some above
  else none

def mostDigits : Nat := 17

/-- The shortest decimal that rounds to `x`, and of several the nearest: the grids are tried from the
one on which `x` has a single digit. -/
def shortest (x : Binary64) : Decimal :=
  if x.significand = 0 then ⟨0, 0⟩ else
  let first := floorLog10 x.fraction.1 x.fraction.2
  ((List.range mostDigits).findSome? fun more => x.decimalOnGrid? (first - Int.ofNat more)).getD
    x.exactDecimal

end LoadScript.Binary64
