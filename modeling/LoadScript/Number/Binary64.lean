/-!
# Finite double-precision numbers

A number of the binary64 format is a sign and a magnitude `significand · 2 ^ exponent`, where the
significand uses all of its 53 bits unless the exponent is the least there is. So a number has one
representation only. `Binary64.ofDecimal?` rounds a decimal to the nearest such number, a tie going
to the even significand, in exact integer arithmetic: nothing here depends on the machine's own
floating point.
-/

namespace LoadScript

/-- A decimal magnitude `digits · 10 ^ exponent`. -/
structure Decimal where
  digits : Nat
  exponent : Int
  deriving DecidableEq, Repr, Inhabited

/-- The number of decimal digits of a positive number; zero has one. -/
def decimalLength (n : Nat) : Nat := (Nat.toDigits 10 n).length

def pow2 (n : Nat) : Nat := Nat.pow 2 n

/-- A fraction `num / den` divided by `base ^ shift`, again as a fraction. -/
def scaleDown (base num den : Nat) : Int → Nat × Nat
  | .ofNat shift => (num, den * Nat.pow base shift)
  | .negSucc shift => (num * Nat.pow base (shift + 1), den)

/-- The integer nearest to `num / den`, of two equally near ones the even one. -/
def nearestInteger (num den : Nat) : Nat :=
  let quotient := num / den
  let twice := 2 * (num % den)
  if twice < den then quotient
  else if den < twice then quotient + 1
  else quotient + quotient % 2

namespace Binary64

/-- The exponent of the smallest numbers, and of zero. -/
def leastExponent : Int := -1074

def greatestExponent : Int := 971

def precision : Nat := 53

/-- Whether a significand and an exponent represent a number in the one way there is. -/
def IsCanonical (significand : Nat) (exponent : Int) : Prop :=
  significand < pow2 precision ∧ leastExponent ≤ exponent ∧ exponent ≤ greatestExponent ∧
    (pow2 (precision - 1) ≤ significand ∨ exponent = leastExponent)

instance (significand : Nat) (exponent : Int) : Decidable (IsCanonical significand exponent) :=
  inferInstanceAs (Decidable (_ ∧ _))

end Binary64

/-- A finite number of the binary64 format: `± significand · 2 ^ exponent`. -/
structure Binary64 where
  negative : Bool
  significand : Nat
  exponent : Int
  canonical : Binary64.IsCanonical significand exponent
  deriving DecidableEq, Repr

namespace Binary64

def zero (negative : Bool) : Binary64 := ⟨negative, 0, leastExponent, by decide⟩

instance : Inhabited Binary64 := ⟨zero false⟩

/-- The `k` with `2 ^ k ≤ num / den < 2 ^ (k + 1)`, for positive `num` and `den`. -/
def floorLog2 (num den : Nat) : Int :=
  let guess : Int := Int.ofNat num.log2 - Int.ofNat den.log2
  let scaled := scaleDown 2 num den guess
  if scaled.1 < scaled.2 then guess - 1 else guess

/-- The double nearest to `num / den`; none when the fraction rounds beyond the largest double. -/
def ofFraction? (negative : Bool) (num den : Nat) : Option Binary64 :=
  if num = 0 then some (zero negative) else
  let exponent := max leastExponent (floorLog2 num den - Int.ofNat (precision - 1))
  let scaled := scaleDown 2 num den exponent
  let nearest := nearestInteger scaled.1 scaled.2
  -- rounding up can need one bit more than there is
  let (significand, exponent) :=
    if nearest = pow2 precision then (pow2 (precision - 1), exponent + 1) else (nearest, exponent)
  if h : IsCanonical significand exponent then some ⟨negative, significand, exponent, h⟩ else none

/-- Decimals with more digits before the point than this are beyond the largest double. -/
def mostPlaces : Int := 310

/-- Decimals with their first digit further right of the point than this round to zero. -/
def leastPlaces : Int := -330

/-- The double nearest to a decimal; none when the decimal is too large. A decimal that is far too
large or far too small is told by its places, so its power of ten is never computed. -/
def ofDecimal? (negative : Bool) (d : Decimal) : Option Binary64 :=
  let places := Int.ofNat (decimalLength d.digits) + d.exponent
  if d.digits = 0 || places < leastPlaces then some (zero negative)
  else if mostPlaces < places then none
  else
    let (num, den) := scaleDown 10 d.digits 1 (-d.exponent)
    ofFraction? negative num den

def fraction (x : Binary64) : Nat × Nat := scaleDown 2 x.significand 1 (-x.exponent)

/-- The magnitude as a decimal, every digit of it. -/
def exactDecimal (x : Binary64) : Decimal :=
  match x.exponent with
  | .ofNat shift => ⟨x.significand * pow2 shift, 0⟩
  | .negSucc shift => ⟨x.significand * Nat.pow 5 (shift + 1), .negSucc shift⟩

end Binary64

end LoadScript
