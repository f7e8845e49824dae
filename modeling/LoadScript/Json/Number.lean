import LoadScript.Number.Layout
import LoadScript.Number.Scaling

/-!
# Numbers of a JSON document

A `Numeral` is a number as it is written, a `Number` is what is decoded from it: an integer when it
is written without fraction and exponent and fits in 64 bits, and else a double. Of the digits those
are decoded that fit in 64 bits. They are rounded to a double, and so is every product and quotient
with a power of ten after that. So the double is near to what is written, but need not be the
nearest one. `Number.text` writes a number in its own way, and a numeral and the text of its number
need not agree.
-/

namespace LoadScript.Json

structure Numeral.Exponent where
  mark : Char
  sign : Option Char
  digits : List Char
  deriving DecidableEq, Repr

structure Numeral where
  negative : Bool
  whole : List Char
  fraction : Option (List Char)
  exponent : Option Numeral.Exponent
  deriving DecidableEq, Repr

def digitsValue (digits : List Char) : Nat :=
  digits.foldl (fun value digit => 10 * value + (digit.toNat - '0'.toNat)) 0

def Numeral.Exponent.value (e : Numeral.Exponent) : Int :=
  let magnitude := Int.ofNat (digitsValue e.digits)
  if e.sign = some '-' then -magnitude else magnitude

def Numeral.Exponent.chars (e : Numeral.Exponent) : List Char :=
  e.mark :: e.sign.toList ++ e.digits

def Numeral.chars (n : Numeral) : List Char :=
  (if n.negative then ['-'] else []) ++ n.whole
    ++ (match n.fraction with | none => [] | some digits => '.' :: digits)
    ++ (match n.exponent with | none => [] | some e => e.chars)

/-- The least integer that stays one: the least signed number of 64 bits. -/
def leastInteger : Int := -9223372036854775808

/-- The greatest integer that stays one: the greatest unsigned number of 64 bits. -/
def greatestInteger : Int := 18446744073709551615

inductive Number where
  | integer (value : Int) (inRange : leastInteger ≤ value ∧ value ≤ greatestInteger)
  | real (value : Binary64)
  deriving DecidableEq, Repr

instance : Inhabited Number := ⟨.real default⟩

/-- What a numeral without fraction and exponent denotes. Negative zero is no integer. -/
def Numeral.integer? (n : Numeral) : Option Int :=
  if n.fraction.isSome || n.exponent.isSome then none else
  let magnitude := Int.ofNat (digitsValue n.whole)
  if n.negative then if magnitude = 0 then none else some (-magnitude) else some magnitude

/-- Takes digits into a significand for as long as it fits in 64 bits, and leaves the others. -/
def takeDigits (significand : Nat) : List Char → Nat × List Char
  | [] => (significand, [])
  | digit :: rest =>
    let longer := 10 * significand + (digit.toNat - '0'.toNat)
    if longer ≤ greatestInteger then takeDigits longer rest else (significand, digit :: rest)

/-- The magnitude of a numeral by the digits that are decoded. Digits that are left out in front of
the point count as zeros. -/
def Numeral.decoded (n : Numeral) : Decimal :=
  let fraction := n.fraction.getD []
  let (whole, dropped) := takeDigits 0 n.whole
  let (significand, unread) := takeDigits whole fraction
  ⟨significand, (n.exponent.elim 0 Numeral.Exponent.value) + Int.ofNat dropped.length
    - Int.ofNat (fraction.length - unread.length)⟩

def Numeral.real? (n : Numeral) : Option Number := do
  let significand ← Binary64.ofDecimal? n.negative ⟨n.decoded.digits, 0⟩
  (significand.scaleByTen? n.decoded.exponent).map .real

/-- The number that is decoded from a numeral: an integer that is in range, and else a double. -/
def Numeral.number? (n : Numeral) : Option Number :=
  match n.integer? with
  | none => n.real?
  | some value =>
    if h : leastInteger ≤ value ∧ value ≤ greatestInteger then some (.integer value h) else n.real?

/-- Reals are positional from a hundred-thousandth up to sixteen digits before the point. -/
def realLayout : DecimalLayout := ⟨-5, 15⟩

def integerChars : Int → List Char
  | .ofNat n => Nat.toDigits 10 n
  | .negSucc n => '-' :: Nat.toDigits 10 (n + 1)

def Number.chars : Number → List Char
  | .integer value _ => integerChars value
  | .real value => value.render realLayout

def Number.text (n : Number) : String := String.ofList n.chars

end LoadScript.Json
