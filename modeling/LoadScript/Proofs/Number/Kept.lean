import LoadScript.Proofs.Ecma.Literal
import LoadScript.Proofs.Number.Decoding
import Mathlib.Data.List.Induction

/-!
# Numerals that are kept

A number is written as a numeral of its own, and a numeral that it was decoded from
need not be that one. It is if it is an integer that is in range, since the digits of
an integer are those of its value (`toDigits_digitsValue`), or if it is decoded to a
double and is the shortest numeral of that double (`chars_eq_iff_kept`). To be the
shortest numeral of some double is enough only if the numeral is short
(`Short.kept_iff`): with more digits it may be decoded to a neighbour of the double that
it is the numeral of. What is written has no zero at the end of its fraction, and its
exponent is in the one spelling that there is for it (`plain_numeral`).
-/

namespace LoadScript

open Json Ecma

/-! ## Digits of a value -/

theorem digitChar_digitsValue {d : Char} (h : d.isDigit = true) :
    digitsValue [d] < 10 ∧ Nat.digitChar (digitsValue [d]) = d := by
  have hbounds := digit_bounds h
  have hvalue : digitsValue [d] = d.toNat - 48 := Nat.zero_add _
  have hlt : digitsValue [d] < 10 := by omega
  refine ⟨hlt, Char.toNat_inj.1 ?_⟩
  rw [Nat.toNat_digitChar_of_lt_ten hlt]
  omega

/-- Digits are the notation of their value, unless there is a zero too many in front. -/
theorem toDigits_digitsValue {digits : List Char} (h : IsDigits digits)
    (hhead : digits = ['0'] ∨ digits.head? ≠ some '0') :
    Nat.toDigits 10 (digitsValue digits) = digits := by
  induction digits using List.reverseRecOn with
  | nil => exact absurd rfl h.1
  | append_singleton front d ih =>
      obtain ⟨hlt, hchar⟩ := digitChar_digitsValue (h.2 d (by simp))
      cases front with
      | nil => rw [List.nil_append, Nat.toDigits_of_lt_base hlt, hchar]
      | cons first rest =>
          have hnonzero : (first :: rest).head? ≠ some '0' := by
            rcases hhead with hzero | hhead
            · exact absurd (congrArg List.length hzero) (by simp)
            · exact hhead
          have hfront := ih ⟨by simp, fun c hc => h.2 c (List.mem_append_left _ hc)⟩
            (Or.inr hnonzero)
          have hpos : 0 < digitsValue (first :: rest) := by
            refine Nat.pos_of_ne_zero fun hzero => ?_
            rw [hzero] at hfront
            exact hnonzero (by rw [← hfront]; rfl)
          have happend := Nat.toDigits_append_toDigits (b := 10) (by decide) hpos hlt
          rw [hfront, Nat.toDigits_of_lt_base hlt, hchar] at happend
          rw [digitsValue_append, List.length_singleton, Nat.pow_one, ← happend]

namespace Json

variable {n : Numeral}

/-- An integer is written as the numeral that it was read from. -/
theorem integerNumeral_of_integer? (h : n.WellFormed) {value : Int} (hvalue : n.integer? = some value) :
    integerNumeral value = n := by
  have hdigits := toDigits_digitsValue h.whole h.head
  obtain ⟨negative, whole, fraction, exponent⟩ := n
  rw [Numeral.integer?] at hvalue
  split at hvalue
  · cases hvalue
  · next hpoint =>
      obtain ⟨hfraction, hexponent⟩ : fraction = none ∧ exponent = none := by simpa using hpoint
      cases negative with
      | false =>
          rw [← Option.some.inj hvalue, hfraction, hexponent]
          exact congrArg (Numeral.mk false · none none) hdigits
      | true =>
          simp only [if_true] at hvalue
          split at hvalue
          · cases hvalue
          · next hnonzero =>
              obtain ⟨magnitude, hmagnitude⟩ := Nat.exists_eq_add_one_of_ne_zero
                (fun hzero => hnonzero (congrArg Int.ofNat hzero))
              rw [← Option.some.inj hvalue, hfraction, hexponent]
              simp only at hmagnitude hdigits ⊢
              rw [hmagnitude] at hdigits ⊢
              exact congrArg (Numeral.mk true · none none) hdigits

theorem Numeral.WellFormed.chars_inj {m : Numeral} (hn : n.WellFormed) (hm : m.WellFormed) :
    n.chars = m.chars ↔ n = m := by
  constructor
  · intro h
    have hscan := Numeral.scanNumeral?_chars hn
    rw [h, Numeral.scanNumeral?_chars hm, Option.some.injEq] at hscan
    exact (Prod.mk.inj hscan).1.symm
  · rintro rfl
    rfl

namespace Numeral

def IsInteger (n : Numeral) : Prop :=
  ∃ value, n.integer? = some value ∧ leastInteger ≤ value ∧ value ≤ greatestInteger

/-- The numeral that the double is written as. -/
def IsShortest (n : Numeral) (x : Binary64) : Prop := n = x.shortest.numeral realLayout x.negative

/-- An integer in range, or the shortest numeral of the double that is decoded from it. -/
def Kept (n : Numeral) : Prop :=
  n.IsInteger ∨ ∃ x, n.number? = some (.real x) ∧ n.IsShortest x

end Numeral

/-- A number is written with the characters that it was read from exactly if its
numeral is kept. -/
theorem chars_eq_iff_kept (hwell : n.WellFormed) {number : Number}
    (hnumber : n.number? = some number) : number.numeral.chars = n.chars ↔ n.Kept := by
  rw [(numeral_wellFormed number).chars_inj hwell]
  constructor
  · rintro rfl
    cases number with
    | integer value inRange => exact Or.inl ⟨value, integer?_integerNumeral value, inRange⟩
    | real x => exact Or.inr ⟨x, hnumber, rfl⟩
  · rintro (⟨value, hvalue, hrange⟩ | ⟨x, hreal, hshortest⟩)
    · rw [Numeral.number?, hvalue] at hnumber
      simp only [dif_pos hrange] at hnumber
      rw [← Option.some.inj hnumber]
      exact integerNumeral_of_integer? hwell hvalue
    · rw [Option.some.inj (hnumber.symm.trans hreal)]
      exact hshortest.symm

/-- Among short numerals, integers and the shortest numerals of doubles are kept. -/
theorem Numeral.Short.kept_iff (h : n.Short) : n.Kept ↔ n.IsInteger ∨ ∃ x, n.IsShortest x := by
  refine or_congr_right (exists_congr fun x => ⟨And.right, fun hshortest => ⟨?_, hshortest⟩⟩)
  rw [Numeral.number?_of_short h, hshortest]
  exact nearest?_numeral (.real x)

/-- With seventeen digits, the shortest numeral of a double need not be kept. -/
example :
    let n : Numeral := ⟨false, ['5', '1'], some "248178375505404".toList, none⟩
    n.nearest?.map Number.text = some "51.248178375505404"
      ∧ n.number?.map Number.text = some "51.24817837550541" := by
  decide +kernel

/-! ## What is written is plain -/

/-- There is no zero at the end of the fraction but a single one, and the exponent has
a small letter, a sign and no zero too many. -/
structure Numeral.Plain (n : Numeral) : Prop where
  fraction : ∀ digits ∈ n.fraction, digits = ['0'] ∨ digits.getLast? ≠ some '0'
  exponent : ∀ e ∈ n.exponent,
    e.mark = 'e' ∧ e.sign ≠ none ∧ (e.digits = ['0'] ∨ e.digits.head? ≠ some '0')

theorem last_significant (d : Decimal) : d.significant.1.getLast? ≠ some '0' := by
  have hhead := List.head?_dropWhile_not (· == '0') (Nat.toDigits 10 d.digits).reverse
  rw [Decimal.significant, List.getLast?_reverse]
  intro hzero
  rw [hzero] at hhead
  exact absurd hhead (by decide)

section Plain

variable {digits : List Char}

theorem positionalNumeral_plain (hne : digits ≠ []) (h : digits.getLast? ≠ some '0')
    (negative : Bool) (magnitude : Int) :
    (positionalNumeral negative digits magnitude).Plain := by
  cases magnitude with
  | ofNat magnitude =>
      refine ⟨fun fraction hfraction => ?_, by simp [positionalNumeral]⟩
      rw [← Option.some.inj hfraction]
      split
      · exact Or.inl rfl
      · rw [List.getLast?_drop]
        split
        · simp
        · exact Or.inr h
  | negSucc leading =>
      refine ⟨fun fraction hfraction => ?_, by simp [positionalNumeral]⟩
      rw [← Option.some.inj hfraction, List.getLast?_append_of_ne_nil _ hne]
      exact Or.inr h

theorem scientificNumeral_plain (h : digits.getLast? ≠ some '0') (negative : Bool)
    (magnitude : Int) : (scientificNumeral negative digits magnitude).Plain := by
  refine ⟨fun fraction hfraction => ?_, fun e he => ?_⟩
  · rw [scientificNumeral] at hfraction
    simp only at hfraction
    split at hfraction
    · cases hfraction
    · rw [← Option.some.inj hfraction, List.getLast?_drop]
      split
      · simp
      · exact Or.inr h
  · rw [← Option.some.inj he]
    exact ⟨rfl, by simp, head_toDigits_or _⟩

end Plain

theorem plain_numeral (number : Number) : number.numeral.Plain := by
  cases number with
  | integer value inRange =>
      have hplain : (integerNumeral value).fraction = none
          ∧ (integerNumeral value).exponent = none := by
        cases value with
        | ofNat n => exact ⟨rfl, rfl⟩
        | negSucc n => exact ⟨rfl, rfl⟩
      exact ⟨by simp [Number.numeral, hplain], by simp [Number.numeral, hplain]⟩
  | real x =>
      rw [Number.numeral, Decimal.numeral]
      split
      · exact ⟨by simp, by simp⟩
      · next hdigits =>
          have hne := Decimal.significant_ne_nil hdigits
          split
          · exact positionalNumeral_plain hne (last_significant _) _ _
          · exact scientificNumeral_plain (last_significant _) _ _

end Json

end LoadScript
