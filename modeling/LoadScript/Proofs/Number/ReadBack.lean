import LoadScript.Proofs.Number.Numeral
import LoadScript.Proofs.Number.Rounding

/-!
# The text of a number is a numeral that denotes it

A numeral denotes the integer that it is, if that is in range, and else the double
nearest to it (`Numeral.nearest?`). Every number is written as a numeral
(`Number.numeral`), and that numeral denotes the number (`nearest?_numeral`). For
integers this is decimal notation. A real is written by its shortest decimal in one
of two layouts; what is to be shown of the layouts is that they keep the value of the
decimal, with the point moved and zeros added at either end, since the value is all
that rounding looks at.

What a numeral denotes is what a reader of scripts takes it for. It is not always what
the decoder of documents makes of it, which rounds more than once.
-/

namespace LoadScript

open Json

/-! ## What a numeral denotes -/

namespace Json.Numeral

/-- The magnitude. -/
def decimal (n : Numeral) : Decimal :=
  let fraction := n.fraction.getD []
  ⟨digitsValue (n.whole ++ fraction), n.exponent.elim 0 Exponent.value - Int.ofNat fraction.length⟩

/-- An integer in range, and else the nearest double. -/
def nearest? (n : Numeral) : Option Number :=
  match n.integer? with
  | none => (Binary64.ofDecimal? n.negative n.decimal).map .real
  | some value =>
    if h : leastInteger ≤ value ∧ value ≤ greatestInteger then some (.integer value h)
    else (Binary64.ofDecimal? n.negative n.decimal).map .real

end Json.Numeral

/-! ## Digits -/

theorem digitsValue_append (xs ys : List Char) :
    digitsValue (xs ++ ys) = 10 ^ ys.length * digitsValue xs + digitsValue ys := by
  have h : Nat.ofDigitChars 10 (xs ++ ys) 0
      = 10 ^ ys.length * Nat.ofDigitChars 10 xs 0 + Nat.ofDigitChars 10 ys 0 := by
    rw [Nat.ofDigitChars_append]
    exact Nat.ofDigitChars_eq_ofDigitChars_zero
  exact h

theorem digitsValue_replicate (n : Nat) : digitsValue (List.replicate n '0') = 0 := by
  have h := @Nat.ofDigitChars_replicate_zero 10 0 n
  rw [Nat.mul_zero] at h
  exact h

theorem digitsValue_leadingZeros (n : Nat) (digits : List Char) :
    digitsValue (List.replicate n '0' ++ digits) = digitsValue digits := by
  rw [digitsValue_append, digitsValue_replicate, Nat.mul_zero, Nat.zero_add]

theorem digitsValue_trailingZeros (digits : List Char) (n : Nat) :
    digitsValue (digits ++ List.replicate n '0') = 10 ^ n * digitsValue digits := by
  rw [digitsValue_append, digitsValue_replicate, List.length_replicate, Nat.add_zero]

theorem digitsValue_toDigits (n : Nat) : digitsValue (Nat.toDigits 10 n) = n :=
  Nat.ofDigitChars_ten_toDigits

theorem isDigits_toDigits (n : Nat) : IsDigits (Nat.toDigits 10 n) :=
  ⟨Nat.toDigits_ne_nil, fun _ h => Nat.isDigit_of_mem_toDigits (by decide) (by decide) h⟩

theorem digitChar_ne_zero : ∀ n < 10, 0 < n → Nat.digitChar n ≠ '0' := by decide

/-- Only zero is written with a zero in front. -/
theorem head_toDigits {n : Nat} (hn : 0 < n) : (Nat.toDigits 10 n).head? ≠ some '0' := by
  induction n using Nat.strong_induction_on with
  | _ n ih =>
      rcases Nat.lt_or_ge n 10 with hlt | hge
      · rw [Nat.toDigits_of_lt_base hlt]
        intro h
        exact digitChar_ne_zero n hlt hn (Option.some.inj h)
      · have hrest : 0 < n / 10 := by omega
        rw [Nat.toDigits_of_base_le (by decide) hge, List.head?_append_of_ne_nil _ Nat.toDigits_ne_nil]
        exact ih (n / 10) (by omega) hrest

theorem head_toDigits_or (n : Nat) :
    Nat.toDigits 10 n = ['0'] ∨ (Nat.toDigits 10 n).head? ≠ some '0' := by
  rcases Nat.eq_zero_or_pos n with rfl | hn
  · exact Or.inl rfl
  · exact Or.inr (head_toDigits hn)

namespace Decimal

/-- The zeros at the end are what the significant digits leave out. -/
theorem significant_append (d : Decimal) :
    ∃ k, d.significant.1 ++ List.replicate k '0' = Nat.toDigits 10 d.digits := by
  have hsplit := congrArg List.reverse (List.takeWhile_append_dropWhile
    (p := (· == '0')) (l := (Nat.toDigits 10 d.digits).reverse))
  rw [List.reverse_append, List.reverse_reverse] at hsplit
  have hzeros := List.eq_replicate_of_mem (a := '0')
    (l := ((Nat.toDigits 10 d.digits).reverse.takeWhile (· == '0')).reverse) fun c hc => by
      have := List.all_eq_true.1 List.all_takeWhile c (List.mem_reverse.1 hc)
      simpa using this
  rw [hzeros] at hsplit
  exact ⟨_, hsplit⟩

variable {d : Decimal}

theorem significant_ne_nil (hd : d.digits ≠ 0) : d.significant.1 ≠ [] := by
  intro hnil
  obtain ⟨k, hk⟩ := d.significant_append
  have hvalue := congrArg digitsValue hk
  rw [hnil, List.nil_append, digitsValue_replicate, digitsValue_toDigits] at hvalue
  exact hd hvalue.symm

theorem isDigits_significant (hd : d.digits ≠ 0) : IsDigits d.significant.1 := by
  refine ⟨significant_ne_nil hd, fun c hc => ?_⟩
  obtain ⟨k, hk⟩ := d.significant_append
  refine (isDigits_toDigits d.digits).2 c ?_
  rw [← hk]
  exact List.mem_append_left _ hc

theorem head_significant (hd : d.digits ≠ 0) : d.significant.1.head? ≠ some '0' := by
  obtain ⟨k, hk⟩ := d.significant_append
  have hhead := head_toDigits (Nat.pos_of_ne_zero hd)
  rw [← hk, List.head?_append_of_ne_nil _ (significant_ne_nil hd)] at hhead
  exact hhead

/-- The value of a decimal by its significant digits and the power of ten of the
first of them. -/
theorem value_significant (d : Decimal) :
    d.value = digitsValue d.significant.1
      * (10 : ℚ) ^ (d.significant.2 + 1 - d.significant.1.length) := by
  obtain ⟨k, hk⟩ := d.significant_append
  have hdigits : 10 ^ k * digitsValue d.significant.1 = d.digits := by
    have h := congrArg digitsValue hk
    rw [digitsValue_trailingZeros, digitsValue_toDigits] at h
    exact h
  have hlength : d.significant.1.length + k = (Nat.toDigits 10 d.digits).length := by
    rw [← hk, List.length_append, List.length_replicate]
  have hexponent : d.significant.2 + 1 - (d.significant.1.length : ℤ) = k + d.exponent := by
    have : d.significant.2 = Int.ofNat (Nat.toDigits 10 d.digits).length - 1 + d.exponent := rfl
    rw [this, ← hlength, Int.ofNat_eq_natCast]
    push_cast
    ring
  rw [hexponent, value, zpow_add₀ (by norm_num), zpow_natCast]
  have hcast : (d.digits : ℚ) = 10 ^ k * digitsValue d.significant.1 := by exact_mod_cast hdigits.symm
  rw [hcast]
  ring

end Decimal

/-! ## Layouts as numerals -/

def positionalNumeral (negative : Bool) (digits : List Char) : Int → Numeral
  | .ofNat magnitude =>
    let whole := digits.take (magnitude + 1)
    let fraction := digits.drop (magnitude + 1)
    ⟨negative, whole ++ List.replicate (magnitude + 1 - whole.length) '0',
      some (if fraction.isEmpty then ['0'] else fraction), none⟩
  | .negSucc leading => ⟨negative, ['0'], some (List.replicate leading '0' ++ digits), none⟩

def scientificNumeral (negative : Bool) (digits : List Char) (magnitude : Int) : Numeral :=
  ⟨negative, digits.take 1, if digits.length ≤ 1 then none else some (digits.drop 1),
    some ⟨'e', some (if magnitude < 0 then '-' else '+'), Nat.toDigits 10 magnitude.natAbs⟩⟩

def Decimal.numeral (layout : DecimalLayout) (negative : Bool) (d : Decimal) : Numeral :=
  if d.digits = 0 then ⟨negative, ['0'], some ['0'], none⟩ else
  if layout.leastPositional ≤ d.significant.2 ∧ d.significant.2 ≤ layout.greatestPositional then
    positionalNumeral negative d.significant.1 d.significant.2
  else scientificNumeral negative d.significant.1 d.significant.2

theorem positionalNumeral_chars (negative : Bool) (digits : List Char) (magnitude : Int) :
    (positionalNumeral negative digits magnitude).chars
      = (if negative then ['-'] else []) ++ positional digits magnitude := by
  cases magnitude with
  | ofNat magnitude => simp [positionalNumeral, positional, Numeral.chars]
  | negSucc leading =>
      cases negative with
      | true => simp [positionalNumeral, positional, Numeral.chars]
      | false => simp [positionalNumeral, positional, Numeral.chars]

theorem scientificNumeral_chars (negative : Bool) (digits : List Char) (magnitude : Int) :
    (scientificNumeral negative digits magnitude).chars
      = (if negative then ['-'] else []) ++ scientific digits magnitude := by
  match digits with
  | [] => simp [scientificNumeral, scientific, Numeral.chars, Numeral.Exponent.chars]
  | [first] => simp [scientificNumeral, scientific, Numeral.chars, Numeral.Exponent.chars]
  | first :: next :: rest =>
      simp [scientificNumeral, scientific, Numeral.chars, Numeral.Exponent.chars]

theorem Decimal.numeral_chars (layout : DecimalLayout) (negative : Bool) (d : Decimal) :
    (d.numeral layout negative).chars
      = (if negative then ['-'] else []) ++ d.render layout := by
  rw [Decimal.numeral, Decimal.render]
  split
  · simp [Numeral.chars]
  · simp only
    split
    · exact positionalNumeral_chars negative _ _
    · exact scientificNumeral_chars negative _ _

section WellFormed

variable {digits : List Char}

theorem isDigits_replicate_append (hdigits : IsDigits digits) (n : Nat) :
    IsDigits (List.replicate n '0' ++ digits) := by
  refine ⟨by simp [hdigits.1], fun c hc => ?_⟩
  rcases List.mem_append.1 hc with hc | hc
  · rw [(List.mem_replicate.1 hc).2]
    rfl
  · exact hdigits.2 c hc

theorem positionalNumeral_wellFormed (hdigits : IsDigits digits) (hhead : digits.head? ≠ some '0')
    (negative : Bool) (magnitude : Int) :
    (positionalNumeral negative digits magnitude).WellFormed := by
  cases magnitude with
  | ofNat magnitude =>
      obtain ⟨d, ds, rfl⟩ := List.exists_cons_of_ne_nil hdigits.1
      refine ⟨⟨by simp [positionalNumeral], fun c hc => ?_⟩, Or.inr hhead, ?_, by
        simp [positionalNumeral]⟩
      · rcases List.mem_append.1 hc with hc | hc
        · exact hdigits.2 c (List.mem_of_mem_take hc)
        · rw [(List.mem_replicate.1 hc).2]
          rfl
      · intro fraction hfraction
        rw [← Option.some.inj hfraction]
        split
        · exact isDigits_zero
        · next hne =>
            exact ⟨fun h => hne (by rw [h]; rfl), fun c hc => hdigits.2 c (List.mem_of_mem_drop hc)⟩
  | negSucc leading =>
      refine ⟨isDigits_zero, Or.inl rfl, ?_, by simp [positionalNumeral]⟩
      intro fraction hfraction
      rw [← Option.some.inj hfraction]
      exact isDigits_replicate_append hdigits leading

theorem scientificNumeral_wellFormed (hdigits : IsDigits digits) (hhead : digits.head? ≠ some '0')
    (negative : Bool) (magnitude : Int) :
    (scientificNumeral negative digits magnitude).WellFormed := by
  obtain ⟨d, ds, rfl⟩ := List.exists_cons_of_ne_nil hdigits.1
  refine ⟨⟨by simp [scientificNumeral], ?_⟩, Or.inr hhead, ?_, ?_⟩
  · intro c hc
    exact hdigits.2 c (List.mem_of_mem_take hc)
  · intro fraction hfraction
    simp only [scientificNumeral, List.length_cons] at hfraction
    split at hfraction
    · exact absurd hfraction (by simp)
    · next hlen =>
        rw [← Option.some.inj hfraction]
        refine ⟨fun h => hlen ?_, fun c hc => hdigits.2 c (List.mem_of_mem_drop hc)⟩
        rw [List.drop_succ_cons, List.drop_zero] at h
        rw [h]
        exact Nat.le_refl 1
  · intro e he
    rw [← Option.some.inj he]
    refine ⟨Or.inl rfl, ?_, isDigits_toDigits _⟩
    intro c hc
    rw [← Option.some.inj hc]
    split
    · exact Or.inr rfl
    · exact Or.inl rfl

end WellFormed

theorem Decimal.numeral_wellFormed (layout : DecimalLayout) (negative : Bool) (d : Decimal) :
    (d.numeral layout negative).WellFormed := by
  rw [Decimal.numeral]
  split
  · exact ⟨isDigits_zero, Or.inl rfl, by simp [isDigits_zero], by simp⟩
  · next hd =>
      have hdigits := Decimal.isDigits_significant hd
      have hhead := Decimal.head_significant hd
      split
      · exact positionalNumeral_wellFormed hdigits hhead negative _
      · exact scientificNumeral_wellFormed hdigits hhead negative _

/-! ## The value of a layout -/

section Value

variable {digits : List Char}

/-- The point stands among the digits. -/
theorem positionalNumeral_value_inside (negative : Bool) {magnitude : Nat}
    (h : magnitude + 1 < digits.length) :
    (positionalNumeral negative digits magnitude).decimal.value
      = digitsValue digits * (10 : ℚ) ^ ((magnitude : ℤ) + 1 - digits.length) := by
  have hdrop : (digits.drop (magnitude + 1)).isEmpty = false := by simpa using h
  have htake : magnitude + 1 - (digits.take (magnitude + 1)).length = 0 := by
    rw [List.length_take]
    omega
  have hexponent : (0 : ℤ) - Int.ofNat (digits.drop (magnitude + 1)).length
      = magnitude + 1 - digits.length := by
    rw [List.length_drop, Int.ofNat_eq_natCast]
    omega
  simp only [positionalNumeral, Numeral.decimal, Decimal.value, Option.getD_some,
    Option.elim_none, htake, hdrop, hexponent, List.replicate_zero, List.append_nil,
    Bool.false_eq_true, if_false, List.take_append_drop]

/-- The point stands behind the digits, after as many zeros as it takes. -/
theorem positionalNumeral_value_behind (negative : Bool) {magnitude : Nat}
    (h : digits.length ≤ magnitude + 1) :
    (positionalNumeral negative digits magnitude).decimal.value
      = digitsValue digits * (10 : ℚ) ^ ((magnitude : ℤ) + 1 - digits.length) := by
  obtain ⟨zeros, hzeros⟩ := Nat.exists_eq_add_of_le h
  have hdrop : digits.drop (magnitude + 1) = [] := List.drop_of_length_le h
  have htake : digits.take (magnitude + 1) = digits := List.take_of_length_le h
  have hpad : magnitude + 1 - digits.length = zeros := by omega
  have hexponent : (magnitude : ℤ) + 1 - digits.length = zeros := by omega
  have hone : (0 : ℤ) - Int.ofNat ['0'].length = -1 := rfl
  have hvalue : digitsValue (digits ++ List.replicate zeros '0' ++ ['0'])
      = 10 ^ (zeros + 1) * digitsValue digits := by
    rw [List.append_assoc, ← List.replicate_succ', digitsValue_trailingZeros]
  simp only [positionalNumeral, Numeral.decimal, Decimal.value, Option.getD_some,
    Option.elim_none, htake, hdrop, hpad, hexponent, List.isEmpty_nil, if_true, hvalue]
  push_cast
  rw [hone, zpow_natCast, pow_succ]
  field_simp

/-- The point stands in front of the digits. -/
theorem positionalNumeral_value_before (negative : Bool) (leading : Nat) :
    (positionalNumeral negative digits (.negSucc leading)).decimal.value
      = digitsValue digits * (10 : ℚ) ^ (Int.negSucc leading + 1 - digits.length) := by
  have hvalue : digitsValue ('0' :: (List.replicate leading '0' ++ digits))
      = digitsValue digits := digitsValue_leadingZeros (leading + 1) digits
  have hexponent : (0 : ℤ) - Int.ofNat (List.replicate leading '0' ++ digits).length
      = Int.negSucc leading + 1 - digits.length := by
    simp only [List.length_append, List.length_replicate, Int.ofNat_eq_natCast]
    omega
  simp only [positionalNumeral, Numeral.decimal, Decimal.value, Option.getD_some,
    Option.elim_none, List.cons_append, List.nil_append, hvalue, hexponent]

theorem positionalNumeral_value (negative : Bool) (digits : List Char) (magnitude : Int) :
    (positionalNumeral negative digits magnitude).decimal.value
      = digitsValue digits * (10 : ℚ) ^ (magnitude + 1 - digits.length) := by
  cases magnitude with
  | ofNat magnitude =>
      rcases Nat.lt_or_ge (magnitude + 1) digits.length with hlong | hshort
      · exact positionalNumeral_value_inside negative hlong
      · exact positionalNumeral_value_behind negative hshort
  | negSucc leading => exact positionalNumeral_value_before negative leading

theorem scientificNumeral_value (negative : Bool) (hdigits : digits ≠ []) (magnitude : Int) :
    (scientificNumeral negative digits magnitude).decimal.value
      = digitsValue digits * (10 : ℚ) ^ (magnitude + 1 - digits.length) := by
  have hexponent : Numeral.Exponent.value
      ⟨'e', some (if magnitude < 0 then '-' else '+'), Nat.toDigits 10 magnitude.natAbs⟩
        = magnitude := by
    rcases lt_or_ge magnitude 0 with hneg | hpos
    · rw [if_pos hneg]
      simp only [Numeral.Exponent.value, digitsValue_toDigits, Int.ofNat_eq_natCast, if_true]
      omega
    · have hplus : some '+' ≠ some '-' := by decide
      rw [if_neg (Int.not_lt.2 hpos)]
      simp only [Numeral.Exponent.value, digitsValue_toDigits, Int.ofNat_eq_natCast, hplus,
        if_false]
      omega
  obtain ⟨first, rest, rfl⟩ := List.exists_cons_of_ne_nil hdigits
  cases rest with
  | nil => simp [scientificNumeral, Numeral.decimal, Decimal.value, hexponent]
  | cons next more => simp [scientificNumeral, Numeral.decimal, Decimal.value, hexponent]

end Value

theorem Decimal.numeral_value (layout : DecimalLayout) (negative : Bool) (d : Decimal) :
    (d.numeral layout negative).decimal.value = d.value := by
  rw [Decimal.numeral]
  split
  · next hd =>
      rw [Decimal.value, Decimal.value, hd]
      simp [Numeral.decimal, digitsValue]
  · next hd =>
      rw [d.value_significant]
      split
      · exact positionalNumeral_value negative _ _
      · exact scientificNumeral_value negative (Decimal.significant_ne_nil hd) _

theorem Decimal.numeral_negative (layout : DecimalLayout) (negative : Bool) (d : Decimal) :
    (d.numeral layout negative).negative = negative := by
  rw [Decimal.numeral]
  split
  · rfl
  · split
    · cases d.significant.2 with
      | ofNat magnitude => rfl
      | negSucc leading => rfl
    · rfl

theorem Decimal.numeral_integer? (layout : DecimalLayout) (negative : Bool) (d : Decimal) :
    (d.numeral layout negative).integer? = none := by
  have hpoint : (d.numeral layout negative).fraction.isSome
      || (d.numeral layout negative).exponent.isSome := by
    rw [Decimal.numeral]
    split
    · rfl
    · split
      · cases d.significant.2 with
        | ofNat magnitude => rfl
        | negSucc leading => rfl
      · rw [scientificNumeral, Option.isSome_some, Bool.or_true]
  rw [Numeral.integer?, if_pos hpoint]

namespace Json

/-! ## Numbers -/

def integerNumeral : Int → Numeral
  | .ofNat n => ⟨false, Nat.toDigits 10 n, none, none⟩
  | .negSucc n => ⟨true, Nat.toDigits 10 (n + 1), none, none⟩

def Number.numeral : Number → Numeral
  | .integer value _ => integerNumeral value
  | .real x => x.shortest.numeral realLayout x.negative

theorem chars_numeral (n : Number) : n.numeral.chars = n.chars := by
  cases n with
  | integer value inRange =>
      cases value with
      | ofNat n => simp [Number.numeral, Number.chars, integerNumeral, integerChars, Numeral.chars]
      | negSucc n =>
          simp [Number.numeral, Number.chars, integerNumeral, integerChars, Numeral.chars]
  | real x => exact Decimal.numeral_chars realLayout x.negative x.shortest

theorem numeral_wellFormed (n : Number) : n.numeral.WellFormed := by
  cases n with
  | integer value inRange =>
      cases value with
      | ofNat n => exact ⟨isDigits_toDigits n, head_toDigits_or n, nofun, nofun⟩
      | negSucc n => exact ⟨isDigits_toDigits (n + 1), head_toDigits_or (n + 1), nofun, nofun⟩
  | real x => exact Decimal.numeral_wellFormed realLayout x.negative x.shortest

theorem integer?_integerNumeral (value : Int) :
    (integerNumeral value).integer? = some value := by
  cases value with
  | ofNat n => simp [integerNumeral, Numeral.integer?, digitsValue_toDigits]
  | negSucc n =>
      simp only [integerNumeral, Numeral.integer?, digitsValue_toDigits]
      rfl

/-- The numeral that a double is written as is read as the double. -/
theorem ofDecimal?_numeral (x : Binary64) :
    Binary64.ofDecimal? x.negative (x.shortest.numeral realLayout x.negative).decimal = some x := by
  rw [Binary64.ofDecimal?_congr (Decimal.numeral_value realLayout x.negative x.shortest)]
  exact x.ofDecimal?_shortest

/-- The numeral that a number is written as denotes the number. -/
theorem nearest?_numeral (n : Number) : n.numeral.nearest? = some n := by
  cases n with
  | integer value inRange =>
      rw [Number.numeral, Numeral.nearest?, integer?_integerNumeral]
      exact dif_pos inRange
  | real x =>
      rw [Number.numeral, Numeral.nearest?, Decimal.numeral_integer?]
      simp only [Decimal.numeral_negative, ofDecimal?_numeral, Option.map_some]

end Json

end LoadScript
