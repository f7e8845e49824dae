import LoadScript.Number.Binary64

/-!
# Doubles times powers of ten

The product and the quotient of two doubles are rounded to the nearest double. A power of ten that
a double is multiplied with, or divided by, is rounded to a double itself, and what is beyond the
greatest of these powers is divided by in steps. So there is rounding on the way, and what comes out
need not be the double that is nearest to the product.
-/

namespace LoadScript.Binary64

/-- The product, rounded; none when it rounds beyond the largest double. -/
def mul? (x y : Binary64) : Option Binary64 :=
  ofFraction? (x.negative != y.negative) (x.fraction.1 * y.fraction.1) (x.fraction.2 * y.fraction.2)

/-- The quotient, rounded. The divisor is not zero. -/
def div? (x y : Binary64) : Option Binary64 :=
  ofFraction? (x.negative != y.negative) (x.fraction.1 * y.fraction.2) (x.fraction.2 * y.fraction.1)

def greatestPower : Nat := 308

def powerOfTen? (exponent : Nat) : Option Binary64 := ofDecimal? false ⟨1, exponent⟩

/-- A double divided by the greatest power of ten, time after time until nothing is left of it. -/
def lower? : Nat → Binary64 → Option Binary64
  | 0, x => some x
  | times + 1, x =>
    if x.significand = 0 then some x
    else ((powerOfTen? greatestPower).bind x.div?).bind (lower? times)

/-- A double times `10 ^ exponent`, each step rounded; none when it is beyond the largest double. -/
def scaleByTen? (x : Binary64) : Int → Option Binary64
  | .ofNat exponent =>
    if exponent ≤ greatestPower then (powerOfTen? exponent).bind x.mul?
    else if x.significand = 0 then some x
    else none
  | .negSucc exponent => do
    let lowered ← lower? (exponent / greatestPower) x
    (powerOfTen? (exponent % greatestPower + 1)).bind lowered.div?

end LoadScript.Binary64
