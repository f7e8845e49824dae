import LoadScript.Number.Shortest

/-!
# Decimals as text

A decimal is written positionally while its first digit stands near the point, and in scientific
form beyond that; where the line runs is the `DecimalLayout`'s to say. A positional number always
shows a point.
-/

namespace LoadScript

/-- Where the positional form ends: the least and the greatest power of ten that the first digit
may stand for. -/
structure DecimalLayout where
  leastPositional : Int
  greatestPositional : Int

def Decimal.significant (d : Decimal) : List Char × Int :=
  let digits := Nat.toDigits 10 d.digits
  ((digits.reverse.dropWhile (· == '0')).reverse, Int.ofNat digits.length - 1 + d.exponent)

/-- Digits with the point after the digit for the ones; `magnitude` is the power of ten of the
first. -/
def positional (digits : List Char) : Int → List Char
  | .ofNat magnitude =>
    let whole := digits.take (magnitude + 1)
    let fraction := digits.drop (magnitude + 1)
    whole ++ List.replicate (magnitude + 1 - whole.length) '0' ++ '.' ::
      (if fraction.isEmpty then ['0'] else fraction)
  | .negSucc leading => '0' :: '.' :: List.replicate leading '0' ++ digits

/-- Digits with the point after the first one and the power of ten after them, always with its
sign. -/
def scientific (digits : List Char) (magnitude : Int) : List Char :=
  let mantissa := match digits with
    | first :: next :: rest => first :: '.' :: next :: rest
    | short => short
  let sign := if magnitude < 0 then '-' else '+'
  mantissa ++ 'e' :: sign :: Nat.toDigits 10 magnitude.natAbs

def Decimal.render (layout : DecimalLayout) (d : Decimal) : List Char :=
  if d.digits = 0 then ['0', '.', '0'] else
  let (digits, magnitude) := d.significant
  if layout.leastPositional ≤ magnitude ∧ magnitude ≤ layout.greatestPositional then
    positional digits magnitude
  else scientific digits magnitude

/-- A double as text: its sign and its shortest decimal. -/
def Binary64.render (layout : DecimalLayout) (x : Binary64) : List Char :=
  (if x.negative then ['-'] else []) ++ x.shortest.render layout

end LoadScript
