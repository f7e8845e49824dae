import LoadScript.Proofs.Number.ReadBack

/-!
# When the double that is decoded is the nearest one

A decoder that rounds the digits, the power of ten and then their product or quotient
rounds three times, and may come to another double than the nearest. There is nothing
to be lost, however, where the first two are doubles as they are: the digits if they
fit in 53 bits, and the power of ten up to the twenty-second, since the fives in it fit
in 53 bits too. Then only the product or quotient is rounded, once (`scaleByTen?_eq`).
So a short numeral is decoded to the number that it denotes (`number?_of_short`).
-/

namespace LoadScript

open Json

/-! ## Products and quotients -/

namespace Binary64

theorem fraction_value (x : Binary64) : (x.fraction.1 : ℚ) / x.fraction.2 = x.value := by
  rw [fraction, scaleDown_value two_pos, value]
  simp [zpow_neg]

theorem fraction_pos (x : Binary64) : 0 < x.fraction.2 := scaleDown_pos two_pos one_pos _

theorem ofFraction?_of_value {num den num' den' : Nat} (hden : 0 < den) (hden' : 0 < den')
    (h : (num : ℚ) / den = num' / den') (negative : Bool) :
    ofFraction? negative num den = ofFraction? negative num' den' := by
  refine ofFraction?_congr hden hden' ?_ negative
  rw [div_eq_div_iff (by positivity) (by positivity)] at h
  exact_mod_cast h

/-- A decimal that is neither far too large nor far too small is rounded as the fraction
that it is. -/
theorem ofDecimal?_eq_ofFraction? {d : Decimal}
    (hleast : leastPlaces ≤ Int.ofNat (decimalLength d.digits) + d.exponent)
    (hmost : Int.ofNat (decimalLength d.digits) + d.exponent ≤ mostPlaces) (negative : Bool) :
    ofDecimal? negative d = ofFraction? negative (scaleDown 10 d.digits 1 (-d.exponent)).1
      (scaleDown 10 d.digits 1 (-d.exponent)).2 := by
  by_cases hzero : d.digits = 0
  · have hnum : (scaleDown 10 d.digits 1 (-d.exponent)).1 = 0 := by
      rw [hzero]
      cases -d.exponent with
      | ofNat shift => rfl
      | negSucc shift => exact Nat.zero_mul _
    rw [ofFraction?, if_pos hnum]
    simp [ofDecimal?, hzero]
  · simp only [ofDecimal?, hzero, Int.not_lt.2 hleast, Int.not_lt.2 hmost, decide_false,
      Bool.or_self, Bool.false_eq_true, if_false]

section Value

variable {x y : Binary64} {num den : Nat}

/-- A product is rounded as any fraction of its value. -/
theorem mul?_eq (hden : 0 < den) (h : (num : ℚ) / den = x.value * y.value) :
    x.mul? y = ofFraction? (x.negative != y.negative) num den := by
  refine ofFraction?_of_value (Nat.mul_pos x.fraction_pos y.fraction_pos) hden ?_ _
  rw [h, ← fraction_value, ← fraction_value, div_mul_div_comm]
  push_cast
  rfl

/-- A quotient is rounded as any fraction of its value. -/
theorem div?_eq (hy : 0 < y.value) (hden : 0 < den) (h : (num : ℚ) / den = x.value / y.value) :
    x.div? y = ofFraction? (x.negative != y.negative) num den := by
  have hnum : 0 < y.fraction.1 := by
    rw [← fraction_value] at hy
    have hpos : (0 : ℚ) < y.fraction.2 := by exact_mod_cast y.fraction_pos
    exact_mod_cast (div_pos_iff_of_pos_right hpos).1 hy
  refine ofFraction?_of_value (Nat.mul_pos x.fraction_pos hnum) hden ?_ _
  rw [h, ← fraction_value, ← fraction_value, div_div_div_eq]
  push_cast
  rfl

end Value

/-! ## Numbers that are doubles as they are -/

/-- What fits in 53 bits is a double, and so is its product with a power of two. -/
theorem exists_value_eq {m : Nat} (hm : m < pow2 precision) {k : Int} (hlo : -1022 ≤ k)
    (hhi : k ≤ 971) (negative : Bool) :
    ∃ x : Binary64, x.negative = negative ∧ x.value = m * (2 : ℚ) ^ k := by
  rcases Nat.eq_zero_or_pos m with rfl | hpos
  · exact ⟨zero negative, rfl, by simp [value, zero]⟩
  · -- the significand gets its highest bit by doubling
    have hlog : m.log2 < 53 := (Nat.log2_lt hpos.ne').2 hm
    obtain ⟨shift, hshift⟩ := Nat.exists_eq_add_of_le (Nat.le_of_lt_succ hlog)
    have hsmall : m * 2 ^ shift < 2 ^ 53 := by
      have hlt : m < 2 ^ (m.log2 + 1) := Nat.lt_log2_self
      calc m * 2 ^ shift < 2 ^ (m.log2 + 1) * 2 ^ shift := by gcongr
        _ = 2 ^ 53 := by rw [← pow_add]; congr 1; omega
    have hlarge : 2 ^ 52 ≤ m * 2 ^ shift := by
      have hle : 2 ^ m.log2 ≤ m := Nat.log2_self_le hpos.ne'
      calc 2 ^ 52 = 2 ^ m.log2 * 2 ^ shift := by rw [← pow_add, ← hshift]
        _ ≤ m * 2 ^ shift := by gcongr
    have hcanonical : IsCanonical (m * 2 ^ shift) (k - shift) := by
      refine ⟨hsmall, ?_, ?_, Or.inl hlarge⟩
      · rw [leastExponent]
        omega
      · rw [greatestExponent]
        omega
    refine ⟨⟨negative, _, _, hcanonical⟩, rfl, ?_⟩
    rw [value, zpow_sub₀ two_ne_zero, zpow_natCast]
    push_cast
    field_simp

/-- The powers of ten up to the twenty-second are doubles. -/
theorem powerOfTen?_eq {k : Nat} (hk : k ≤ 22) :
    ∃ p : Binary64, p.negative = false ∧ p.value = (10 : ℚ) ^ k ∧ powerOfTen? k = some p := by
  have hfives : 5 ^ k < pow2 precision :=
    (Nat.pow_le_pow_right (by norm_num) hk).trans_lt (by decide)
  obtain ⟨p, hnegative, hvalue⟩ := exists_value_eq hfives (k := k) (by omega) (by omega) false
  have hten : p.value = (10 : ℚ) ^ k := by
    rw [hvalue, zpow_natCast]
    push_cast
    rw [← mul_pow]
    norm_num
  refine ⟨p, hnegative, hten, ?_⟩
  rw [powerOfTen?, ← hnegative]
  refine ofDecimal?_eq ?_
  rw [hten, Decimal.value, Nat.cast_one, one_mul, zpow_natCast]

/-! ## Scaling by a small power of ten -/

theorem decimalLength_le {n : Nat} (hn : n < pow2 precision) : decimalLength n ≤ 16 := by
  refine (Nat.length_toDigits_le_iff (by norm_num) (by norm_num)).2 (hn.trans ?_)
  decide

/-- Digits that are a double, times a small power of ten, are rounded once. -/
theorem scaleByTen?_eq {x : Binary64} {d : Decimal} (hvalue : x.value = d.digits)
    (hdigits : d.digits < pow2 precision) (hexponent : d.exponent.natAbs ≤ 22) :
    x.scaleByTen? d.exponent = ofDecimal? x.negative d := by
  have hlength := decimalLength_le hdigits
  have hround := ofDecimal?_eq_ofFraction? (d := d)
    (by rw [leastPlaces, Int.ofNat_eq_natCast]; omega)
    (by rw [mostPlaces, Int.ofNat_eq_natCast]; omega) x.negative
  have hden : 0 < (scaleDown 10 d.digits 1 (-d.exponent)).2 := scaleDown_pos (by norm_num) one_pos _
  rw [hround]
  cases hexp : d.exponent with
  | ofNat k =>
      have hk : k ≤ 22 := by rw [hexp] at hexponent; exact hexponent
      obtain ⟨p, hnegative, hpower, hsome⟩ := powerOfTen?_eq hk
      have hproduct := mul?_eq (x := x) (y := p) hden (by
        rw [d.value_eq_fraction, Decimal.value, hvalue, hpower, hexp, Int.ofNat_eq_natCast,
          zpow_natCast])
      rw [scaleByTen?, if_pos (hk.trans (by decide)), hsome, Option.bind_some, hproduct, hnegative,
        Bool.bne_false, hexp]
  | negSucc k =>
      have hk : k + 1 ≤ 22 := by rw [hexp] at hexponent; exact hexponent
      obtain ⟨p, hnegative, hpower, hsome⟩ := powerOfTen?_eq hk
      have hquotient := div?_eq (x := x) (y := p) (by rw [hpower]; positivity) hden (by
        rw [d.value_eq_fraction, Decimal.value, hvalue, hpower, hexp, zpow_negSucc, div_eq_mul_inv])
      have hnone : k / greatestPower = 0 := Nat.div_eq_of_lt (by rw [greatestPower]; omega)
      have hall : k % greatestPower = k := Nat.mod_eq_of_lt (by rw [greatestPower]; omega)
      simp only [scaleByTen?, hnone, hall, lower?, Option.bind_eq_bind, Option.bind_some, hsome]
      rw [hquotient, hnegative, Bool.bne_false, hexp]

end Binary64

/-! ## Numerals with few digits -/

namespace Json

/-- The number that digits make behind others. -/
def digitsFrom (significand : Nat) (digits : List Char) : Nat :=
  digits.foldl (fun value digit => 10 * value + (digit.toNat - '0'.toNat)) significand

theorem le_digitsFrom (digits : List Char) (significand : Nat) :
    significand ≤ digitsFrom significand digits := by
  induction digits generalizing significand with
  | nil => exact Nat.le_refl _
  | cons digit rest ih =>
      have hstep : significand ≤ 10 * significand + (digit.toNat - '0'.toNat) := by omega
      exact Nat.le_trans hstep (ih _)

/-- Digits of which the value fits in 64 bits are all taken. -/
theorem takeDigits_eq {digits : List Char} {significand : Nat}
    (h : digitsFrom significand digits ≤ greatestInteger) :
    takeDigits significand digits = (digitsFrom significand digits, []) := by
  induction digits generalizing significand with
  | nil => rfl
  | cons digit rest ih =>
      have hle := le_digitsFrom rest (10 * significand + (digit.toNat - '0'.toNat))
      have hfits : ((10 * significand + (digit.toNat - '0'.toNat) : Nat) : Int)
          ≤ greatestInteger := le_trans (by exact_mod_cast hle) h
      rw [takeDigits]
      simp only [hfits, if_true]
      exact ih h

namespace Numeral

variable {n : Numeral}

/-- The digits fit in 53 bits, and the point is moved by twenty-two places at most. -/
structure Short (n : Numeral) : Prop where
  digits : n.decimal.digits < pow2 Binary64.precision
  exponent : n.decimal.exponent.natAbs ≤ 22

theorem decoded_eq_decimal (h : (n.decimal.digits : Int) ≤ greatestInteger) :
    n.decoded = n.decimal := by
  have happend : n.decimal.digits = digitsFrom (digitsValue n.whole) (n.fraction.getD []) :=
    List.foldl_append
  rw [happend] at h
  have hwhole : takeDigits 0 n.whole = (digitsValue n.whole, []) :=
    takeDigits_eq (le_trans (by exact_mod_cast le_digitsFrom _ _) h)
  simp only [decoded, hwhole, takeDigits_eq h, List.length_nil, Nat.sub_zero]
  rw [← happend, decimal]
  simp

/-- A short numeral is decoded to the number that it denotes. -/
theorem number?_of_short (h : n.Short) : n.number? = n.nearest? := by
  have hdecoded : n.decoded = n.decimal := by
    refine decoded_eq_decimal ((Int.ofNat_le.2 (Nat.le_of_lt h.digits)).trans ?_)
    decide
  obtain ⟨x, hnegative, hvalue⟩ :=
    Binary64.exists_value_eq h.digits (k := 0) (by norm_num) (by norm_num) n.negative
  have hdigits : x.value = n.decimal.digits := by rw [hvalue, zpow_zero, mul_one]
  have hsignificand : Binary64.ofDecimal? n.negative ⟨n.decimal.digits, 0⟩ = some x := by
    rw [← hnegative]
    refine Binary64.ofDecimal?_eq ?_
    rw [hdigits, Decimal.value, zpow_zero, mul_one]
  have hreal : n.real? = (Binary64.ofDecimal? n.negative n.decimal).map .real := by
    rw [real?, hdecoded, hsignificand, Option.bind_eq_bind, Option.bind_some,
      Binary64.scaleByTen?_eq hdigits h.digits h.exponent, hnegative]
  cases hinteger : n.integer? with
  | none => simp only [number?, nearest?, hinteger, hreal]
  | some value => simp only [number?, nearest?, hinteger, hreal]

end Numeral

end Json

end LoadScript
