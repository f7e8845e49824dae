import LoadScript.Number.Shortest
import Mathlib.Algebra.Order.Field.Power
import Mathlib.Data.Int.Log
import Mathlib.Data.Rat.Floor
import Mathlib.Tactic.FieldSimp
import Mathlib.Tactic.Linarith
import Mathlib.Tactic.NormNum
import Mathlib.Tactic.Positivity
import Mathlib.Tactic.Ring

/-!
# Rounding a decimal to a double

The arithmetic of rounding is done in integers, on fractions that are never
reduced. What it comes to is a matter of the value alone: fractions that are
equal as rational numbers are rounded alike, and so are decimals that differ by
zeros at the end (`ofDecimal?_congr`). From this, and from doubles rounding to
themselves, it follows that the decimal that is written for a double is read as
that double (`ofDecimal?_shortest`).
-/

namespace LoadScript

/-! ## Fractions -/

theorem scaleDown_pos {base num den : Nat} (hbase : 0 < base) (hden : 0 < den) (shift : Int) :
    0 < (scaleDown base num den shift).2 := by
  cases shift with
  | ofNat shift => exact Nat.mul_pos hden (Nat.pow_pos hbase)
  | negSucc shift => exact hden

theorem scaleDown_value {base num den : Nat} (hbase : 0 < base) (shift : Int) :
    ((scaleDown base num den shift).1 : ℚ) / (scaleDown base num den shift).2
      = num / den / (base : ℚ) ^ shift := by
  have hb : (base : ℚ) ≠ 0 := by positivity
  cases shift with
  | ofNat shift =>
      rw [scaleDown, Nat.pow_eq, Int.ofNat_eq_natCast, zpow_natCast, div_div]
      push_cast
      rfl
  | negSucc shift =>
      rw [scaleDown, Nat.pow_eq, zpow_negSucc, div_inv_eq_mul]
      push_cast
      rw [mul_div_right_comm]

theorem scaleDown_cross {base num den num' den' : Nat} (h : num * den' = num' * den)
    (shift : Int) :
    (scaleDown base num den shift).1 * (scaleDown base num' den' shift).2
      = (scaleDown base num' den' shift).1 * (scaleDown base num den shift).2 := by
  cases shift with
  | ofNat shift =>
      simp only [scaleDown]
      rw [← Nat.mul_assoc, ← Nat.mul_assoc, h]
  | negSucc shift =>
      simp only [scaleDown]
      rw [Nat.mul_right_comm, h, Nat.mul_right_comm]

theorem nearestInteger_mul {c : Nat} (hc : 0 < c) (num den : Nat) :
    nearestInteger (c * num) (c * den) = nearestInteger num den := by
  have htwice : 2 * (c * num % (c * den)) = c * (2 * (num % den)) := by
    rw [Nat.mul_mod_mul_left, Nat.mul_left_comm]
  simp only [nearestInteger, htwice, Nat.mul_div_mul_left _ _ hc, Nat.mul_lt_mul_left hc]

/-- Equal fractions have the same nearest integer. -/
theorem nearestInteger_congr {num den num' den' : Nat} (hden : 0 < den) (hden' : 0 < den')
    (h : num * den' = num' * den) : nearestInteger num den = nearestInteger num' den' := by
  rw [← nearestInteger_mul hden' num den, ← nearestInteger_mul hden num' den',
    Nat.mul_comm den' num, h, Nat.mul_comm num' den, Nat.mul_comm den' den]

theorem nearestInteger_exact {num den : Nat} (hden : 0 < den) (n : Nat)
    (h : num = n * den) : nearestInteger num den = n := by
  have hmod : n * den % den = 0 := Nat.mul_mod_left n den
  rw [h, nearestInteger]
  simp only [hmod, Nat.mul_div_cancel n hden]
  rw [if_pos (by omega)]

namespace Binary64

theorem log2_bounds {n : Nat} (hn : 0 < n) :
    (2 : ℚ) ^ (n.log2 : ℤ) ≤ n ∧ (n : ℚ) < 2 ^ ((n.log2 : ℤ) + 1) := by
  constructor
  · exact_mod_cast Nat.log2_self_le (by omega)
  · exact_mod_cast Nat.lt_log2_self (n := n)

/-- The logarithms of numerator and denominator give that of the fraction up to
one. -/
theorem log_fraction_bounds {num den : Nat} (hnum : 0 < num) (hden : 0 < den) :
    (num.log2 : ℤ) - den.log2 - 1 ≤ Int.log 2 ((num : ℚ) / den)
      ∧ Int.log 2 ((num : ℚ) / den) < (num.log2 : ℤ) - den.log2 + 1 := by
  have hq : (0 : ℚ) < num / den := by positivity
  have hd : (0 : ℚ) < den := by positivity
  have htwo : (2 : ℚ) ≠ 0 := by norm_num
  obtain ⟨hnumlo, hnumhi⟩ := log2_bounds hnum
  obtain ⟨hdenlo, hdenhi⟩ := log2_bounds hden
  have hlo : (2 : ℚ) ^ ((num.log2 : ℤ) - den.log2 - 1) ≤ num / den := by
    rw [le_div_iff₀ hd]
    calc (2 : ℚ) ^ ((num.log2 : ℤ) - den.log2 - 1) * den
        ≤ 2 ^ ((num.log2 : ℤ) - den.log2 - 1) * 2 ^ ((den.log2 : ℤ) + 1) := by gcongr
      _ = 2 ^ (num.log2 : ℤ) := by rw [← zpow_add₀ htwo]; congr 1; ring
      _ ≤ num := hnumlo
  have hhi : (num : ℚ) / den < (2 : ℚ) ^ ((num.log2 : ℤ) - den.log2 + 1) := by
    rw [div_lt_iff₀ hd]
    calc (num : ℚ) < 2 ^ ((num.log2 : ℤ) + 1) := hnumhi
      _ = 2 ^ ((num.log2 : ℤ) - den.log2 + 1) * 2 ^ (den.log2 : ℤ) := by
          rw [← zpow_add₀ htwo]; congr 1; ring
      _ ≤ 2 ^ ((num.log2 : ℤ) - den.log2 + 1) * den := by gcongr
  exact ⟨(Int.zpow_le_iff_le_log one_lt_two hq).1 (by exact_mod_cast hlo),
    (Int.lt_zpow_iff_log_lt one_lt_two hq).1 (by exact_mod_cast hhi)⟩

theorem floorLog2_eq_log {num den : Nat} (hnum : 0 < num) (hden : 0 < den) :
    floorLog2 num den = Int.log 2 ((num : ℚ) / den) := by
  have hq : (0 : ℚ) < num / den := by positivity
  obtain ⟨hlog, hlog'⟩ := log_fraction_bounds hnum hden
  have hscaled := @scaleDown_value 2 num den two_pos ((num.log2 : ℤ) - den.log2)
  have hpos : (0 : ℚ) < (scaleDown 2 num den ((num.log2 : ℤ) - den.log2)).2 := by
    exact_mod_cast scaleDown_pos (by norm_num) hden _
  have hguess : (scaleDown 2 num den ((num.log2 : ℤ) - den.log2)).1
        < (scaleDown 2 num den ((num.log2 : ℤ) - den.log2)).2
      ↔ Int.log 2 ((num : ℚ) / den) < (num.log2 : ℤ) - den.log2 := by
    rw [← Int.lt_zpow_iff_log_lt one_lt_two hq, ← @Nat.cast_lt ℚ, ← div_lt_one hpos, hscaled,
      div_lt_one (by positivity)]
  simp only [floorLog2, Int.ofNat_eq_natCast]
  split
  · next hlt =>
      have := hguess.1 hlt
      omega
  · next hge =>
      have := mt hguess.2 hge
      omega

/-- Equal fractions are rounded alike. -/
theorem ofFraction?_congr {num den num' den' : Nat} (hden : 0 < den) (hden' : 0 < den')
    (h : num * den' = num' * den) (negative : Bool) :
    ofFraction? negative num den = ofFraction? negative num' den' := by
  by_cases hnum : num = 0
  · have hzero : num' = 0 := by
      rw [hnum, Nat.zero_mul] at h
      exact (Nat.mul_eq_zero.1 h.symm).resolve_right (by omega)
    simp [ofFraction?, hnum, hzero]
  · have hnum' : num' ≠ 0 := by
      rintro rfl
      rw [Nat.zero_mul] at h
      exact hnum ((Nat.mul_eq_zero.1 h).resolve_right (by omega))
    have hvalue : (num : ℚ) / den = num' / den' := by
      rw [div_eq_div_iff (by positivity) (by positivity)]
      exact_mod_cast h
    have hlog : floorLog2 num den = floorLog2 num' den' := by
      rw [floorLog2_eq_log (by omega) hden, floorLog2_eq_log (by omega) hden', hvalue]
    have hnearest : ∀ e, nearestInteger (scaleDown 2 num den e).1 (scaleDown 2 num den e).2
        = nearestInteger (scaleDown 2 num' den' e).1 (scaleDown 2 num' den' e).2 := fun e =>
      nearestInteger_congr (scaleDown_pos two_pos hden e) (scaleDown_pos two_pos hden' e)
        (scaleDown_cross h e)
    simp only [ofFraction?, hnum, hnum', if_false, hlog, hnearest]

def value (x : Binary64) : ℚ := x.significand * (2 : ℚ) ^ x.exponent

theorem zero_or_pos (x : Binary64) : x = zero x.negative ∨ 0 < x.significand := by
  obtain ⟨negative, significand, exponent, hcan⟩ := x
  rcases Nat.eq_zero_or_pos significand with rfl | hpos
  · have hleast : exponent = leastExponent := by
      rcases hcan.2.2.2 with h | h
      · exact absurd h (by decide)
      · exact h
    subst hleast
    exact Or.inl rfl
  · exact Or.inr hpos

/-- A number's own exponent is the one that rounding its value chooses. -/
theorem exponent_eq {x : Binary64} (hpos : 0 < x.significand) :
    max leastExponent (Int.log 2 x.value - Int.ofNat (precision - 1)) = x.exponent := by
  have hv : (0 : ℚ) < x.value := by rw [value]; positivity
  have htwo : (2 : ℚ) ≠ 0 := by norm_num
  obtain ⟨hsmall, hleast, -, hnormal⟩ := x.canonical
  have hlt : x.value < ((2 : ℕ) : ℚ) ^ ((53 : ℤ) + x.exponent) := by
    rw [value, Nat.cast_two, zpow_add₀ htwo]
    have : (x.significand : ℚ) < 2 ^ (53 : ℤ) := by exact_mod_cast hsmall
    gcongr
  have hlog := (Int.lt_zpow_iff_log_lt one_lt_two hv).1 hlt
  have hprecision : Int.ofNat (precision - 1) = 52 := rfl
  rcases hnormal with hlarge | heq
  · have hle : ((2 : ℕ) : ℚ) ^ ((52 : ℤ) + x.exponent) ≤ x.value := by
      rw [value, Nat.cast_two, zpow_add₀ htwo]
      have : (2 : ℚ) ^ (52 : ℤ) ≤ x.significand := by exact_mod_cast hlarge
      gcongr
    have hlog' := (Int.zpow_le_iff_le_log one_lt_two hv).1 hle
    omega
  · omega

/-- A fraction that is a double rounds to it. -/
theorem ofFraction?_eq {x : Binary64} {num den : Nat} (hden : 0 < den)
    (h : (num : ℚ) / den = x.value) : ofFraction? x.negative num den = some x := by
  rcases zero_or_pos x with hzero | hpos
  · have hnum : num = 0 := by
      have hvalue : (num : ℚ) / den = 0 := by rw [h, hzero]; simp [value, zero]
      have : (num : ℚ) = 0 := by
        rcases div_eq_zero_iff.1 hvalue with h0 | h0
        · exact h0
        · exact absurd h0 (by positivity)
      exact_mod_cast this
    rw [ofFraction?, if_pos hnum, ← hzero]
  · have hnum : 0 < num := by
      rcases Nat.eq_zero_or_pos num with rfl | hnum
      · have : (0 : ℚ) < x.value := by rw [value]; positivity
        rw [← h] at this
        simp at this
      · exact hnum
    have hnearest : nearestInteger (scaleDown 2 num den x.exponent).1
        (scaleDown 2 num den x.exponent).2 = x.significand := by
      have hscaled := @scaleDown_value 2 num den two_pos x.exponent
      have hscaledPos := @scaleDown_pos 2 num den two_pos hden x.exponent
      refine nearestInteger_exact hscaledPos _ ?_
      rw [h, value, Nat.cast_two, mul_div_cancel_right₀ _ (by positivity),
        div_eq_iff (by positivity)] at hscaled
      exact_mod_cast hscaled
    have hcarry : x.significand ≠ pow2 precision := Nat.ne_of_lt x.canonical.1
    simp only [ofFraction?, Nat.ne_of_gt hnum, if_false, floorLog2_eq_log hnum hden, h,
      exponent_eq hpos, hnearest, hcarry, x.canonical, dif_pos]

end Binary64

/-! ## Decimals -/

def Decimal.value (d : Decimal) : ℚ := d.digits * (10 : ℚ) ^ d.exponent

namespace Decimal

theorem value_eq_fraction (d : Decimal) :
    ((scaleDown 10 d.digits 1 (-d.exponent)).1 : ℚ) / (scaleDown 10 d.digits 1 (-d.exponent)).2
      = d.value := by
  rw [scaleDown_value (by norm_num), value]
  simp [zpow_neg]

/-- The places of a decimal in front of the point are told by its value. -/
theorem places_eq_log {d : Decimal} (hd : 0 < d.digits) :
    Int.ofNat (decimalLength d.digits) + d.exponent = Int.log 10 d.value + 1 := by
  have hv : (0 : ℚ) < d.value := by rw [value]; positivity
  have hten : (10 : ℚ) ≠ 0 := by norm_num
  have hlen : 0 < decimalLength d.digits := Nat.length_toDigits_pos
  have hlt : d.digits < 10 ^ decimalLength d.digits :=
    (Nat.length_toDigits_le_iff (by norm_num) hlen).1 (Nat.le_refl _)
  have hle : 10 ^ (decimalLength d.digits - 1) ≤ d.digits := by
    rcases Nat.eq_or_lt_of_le hlen with hone | hmore
    · rw [← hone]
      exact hd
    · by_contra hcon
      have := (Nat.length_toDigits_le_iff (b := 10) (by norm_num) (by omega)).2
        (Nat.lt_of_not_le hcon)
      rw [← decimalLength] at this
      omega
  have hhi : d.value < ((10 : ℕ) : ℚ) ^ ((decimalLength d.digits : ℤ) + d.exponent) := by
    rw [value, Nat.cast_ofNat, zpow_add₀ hten, zpow_natCast]
    have : (d.digits : ℚ) < 10 ^ decimalLength d.digits := by exact_mod_cast hlt
    gcongr
  have hlo : ((10 : ℕ) : ℚ) ^ (((decimalLength d.digits - 1 : ℕ) : ℤ) + d.exponent)
      ≤ d.value := by
    rw [value, Nat.cast_ofNat, zpow_add₀ hten, zpow_natCast]
    have : (10 : ℚ) ^ (decimalLength d.digits - 1) ≤ d.digits := by exact_mod_cast hle
    gcongr
  have h1 := (Int.lt_zpow_iff_log_lt (by norm_num) hv).1 hhi
  have h2 := (Int.zpow_le_iff_le_log (by norm_num) hv).1 hlo
  rw [Int.ofNat_eq_natCast]
  omega

end Decimal

namespace Binary64

/-- Decimals of the same value are rounded alike. -/
theorem ofDecimal?_congr {d e : Decimal} (h : d.value = e.value) (negative : Bool) :
    ofDecimal? negative d = ofDecimal? negative e := by
  have hzero : ∀ d : Decimal, d.digits = 0 ↔ d.value = 0 := by
    intro d
    rw [Decimal.value, mul_eq_zero, or_iff_left (by positivity), Nat.cast_eq_zero]
  by_cases hd : d.digits = 0
  · have he : e.digits = 0 := by rw [hzero, ← h, ← hzero]; exact hd
    simp [ofDecimal?, hd, he]
  · have he : e.digits ≠ 0 := by rw [Ne, hzero, ← h, ← hzero]; exact hd
    have hplaces : Int.ofNat (decimalLength d.digits) + d.exponent
        = Int.ofNat (decimalLength e.digits) + e.exponent := by
      rw [Decimal.places_eq_log (by omega), Decimal.places_eq_log (by omega), h]
    have hround : ofFraction? negative (scaleDown 10 d.digits 1 (-d.exponent)).1
          (scaleDown 10 d.digits 1 (-d.exponent)).2
        = ofFraction? negative (scaleDown 10 e.digits 1 (-e.exponent)).1
          (scaleDown 10 e.digits 1 (-e.exponent)).2 := by
      have hdpos : 0 < (scaleDown 10 d.digits 1 (-d.exponent)).2 :=
        scaleDown_pos (by norm_num) one_pos _
      have hepos : 0 < (scaleDown 10 e.digits 1 (-e.exponent)).2 :=
        scaleDown_pos (by norm_num) one_pos _
      refine ofFraction?_congr hdpos hepos ?_ negative
      have hvalue := d.value_eq_fraction.trans (h.trans e.value_eq_fraction.symm)
      rw [div_eq_div_iff (by positivity) (by positivity)] at hvalue
      exact_mod_cast hvalue
    simp only [ofDecimal?, hd, he, hplaces, hround]

/-- The value of a double other than zero is within the places that are rounded. -/
theorem log_value_bounds {x : Binary64} (hpos : 0 < x.significand) :
    -324 ≤ Int.log 10 x.value ∧ Int.log 10 x.value < 309 := by
  obtain ⟨hsmall, hleast, hgreatest, -⟩ := x.canonical
  have hv : (0 : ℚ) < x.value := by rw [value]; positivity
  have hleastPow : (2 : ℚ) ^ 1074 ≤ 10 ^ 324 := by
    have : 2 ^ 1074 ≤ 10 ^ 324 := by decide +kernel
    exact_mod_cast this
  have hmostPow : (2 : ℚ) ^ 1024 < 10 ^ 309 := by
    have : 2 ^ 1024 < 10 ^ 309 := by decide +kernel
    exact_mod_cast this
  constructor
  · refine (Int.zpow_le_iff_le_log (by norm_num) hv).1 ?_
    calc ((10 : ℕ) : ℚ) ^ (-324 : ℤ) ≤ 1 * 2 ^ (-1074 : ℤ) := by
          rw [one_mul, Nat.cast_ofNat, zpow_neg, zpow_neg]
          exact inv_anti₀ (by positivity) hleastPow
      _ ≤ x.significand * 2 ^ x.exponent := by
          have h1 : (1 : ℚ) ≤ x.significand := by exact_mod_cast hpos
          have h2 : (2 : ℚ) ^ (-1074 : ℤ) ≤ 2 ^ x.exponent :=
            zpow_le_zpow_right₀ (by norm_num) hleast
          gcongr
  · refine (Int.lt_zpow_iff_log_lt (by norm_num) hv).1 ?_
    calc x.value = x.significand * (2 : ℚ) ^ x.exponent := rfl
      _ ≤ 2 ^ (53 : ℤ) * 2 ^ (971 : ℤ) := by
          have h1 : (x.significand : ℚ) ≤ 2 ^ (53 : ℤ) := by exact_mod_cast hsmall.le
          have h2 : (2 : ℚ) ^ x.exponent ≤ 2 ^ (971 : ℤ) :=
            zpow_le_zpow_right₀ (by norm_num) hgreatest
          gcongr
      _ = 2 ^ 1024 := by rw [← zpow_add₀ (by norm_num)]; rfl
      _ < ((10 : ℕ) : ℚ) ^ (309 : ℤ) := hmostPow

/-- A decimal that is a double rounds to it. -/
theorem ofDecimal?_eq {x : Binary64} {d : Decimal} (h : d.value = x.value) :
    ofDecimal? x.negative d = some x := by
  rcases zero_or_pos x with hzero | hpos
  · have hdigits : d.digits = 0 := by
      have hvalue : (d.digits : ℚ) * (10 : ℚ) ^ d.exponent = 0 := by
        rw [← Decimal.value, h, hzero]
        simp [value, zero]
      exact_mod_cast (mul_eq_zero.1 hvalue).resolve_right (by positivity)
    simp only [ofDecimal?, hdigits, decide_true, Bool.true_or, if_true, ← hzero]
  · have hv : (0 : ℚ) < d.value := by rw [h, value]; positivity
    have hdigits : 0 < d.digits := by
      rcases Nat.eq_zero_or_pos d.digits with hd | hd
      · rw [Decimal.value, hd] at hv
        simp at hv
      · exact hd
    have hplaces := Decimal.places_eq_log hdigits
    have hbounds := log_value_bounds hpos
    rw [h] at hplaces
    have hnotLeast : ¬ Int.ofNat (decimalLength d.digits) + d.exponent < leastPlaces := by
      rw [hplaces, leastPlaces]
      omega
    have hnotMost : ¬ mostPlaces < Int.ofNat (decimalLength d.digits) + d.exponent := by
      rw [hplaces, mostPlaces]
      omega
    have hround := ofFraction?_eq (scaleDown_pos (by norm_num) one_pos (-d.exponent))
      (d.value_eq_fraction.trans h)
    simp only [ofDecimal?, Nat.ne_of_gt hdigits, hnotLeast, hnotMost, hround, decide_false,
      Bool.or_self, Bool.false_eq_true, if_false]

theorem exactDecimal_value (x : Binary64) : x.exactDecimal.value = x.value := by
  rw [exactDecimal, value]
  split
  · next shift hexp =>
      rw [hexp, Decimal.value, pow2, Nat.pow_eq, Int.ofNat_eq_natCast, zpow_natCast]
      push_cast
      simp
  · next shift hexp =>
      rw [hexp, Decimal.value, Nat.pow_eq, zpow_negSucc, zpow_negSucc]
      push_cast
      have hten : (10 : ℚ) ^ (shift + 1) = 2 ^ (shift + 1) * 5 ^ (shift + 1) := by
        rw [← mul_pow]
        norm_num
      rw [hten]
      field_simp

theorem ofDecimal?_onGrid {x : Binary64} {exponent : Int} {d : Decimal}
    (h : x.decimalOnGrid? exponent = some d) : ofDecimal? x.negative d = some x := by
  simp only [decimalOnGrid?] at h
  split at h
  · next hround => rw [← Option.some.inj h]; exact hround
  · split at h
    · next hround => rw [← Option.some.inj h]; exact hround
    · split at h
      · next hround => rw [← Option.some.inj h]; exact hround
      · exact absurd h (by simp)

/-- The decimal that is written for a double is read as the double. -/
theorem ofDecimal?_shortest (x : Binary64) : ofDecimal? x.negative x.shortest = some x := by
  simp only [shortest]
  split
  · next hzero =>
      refine ofDecimal?_eq ?_
      simp [Decimal.value, value, hzero]
  · cases hfound : (List.range mostDigits).findSome? fun more =>
        x.decimalOnGrid? (floorLog10 x.fraction.1 x.fraction.2 - Int.ofNat more) with
    | none => exact ofDecimal?_eq x.exactDecimal_value
    | some d =>
        obtain ⟨more, _, hgrid⟩ := List.exists_of_findSome?_eq_some hfound
        exact ofDecimal?_onGrid hgrid

end Binary64

end LoadScript
