import LoadScript.Json.Token

/-!
# Numerals read back

A numeral that keeps to the grammar is scanned from its own characters. The
parts are scanned one after the other, and each stops where the next begins,
because no part begins with a digit.
-/

namespace LoadScript.Json

def IsDigits (digits : List Char) : Prop := digits ≠ [] ∧ ∀ c ∈ digits, c.isDigit = true

theorem isDigits_zero : IsDigits ['0'] := by
  refine ⟨by simp, fun c hc => ?_⟩
  rw [List.mem_singleton.1 hc]
  rfl

structure Numeral.Exponent.WellFormed (e : Numeral.Exponent) : Prop where
  mark : e.mark = 'e' ∨ e.mark = 'E'
  sign : ∀ c ∈ e.sign, c = '+' ∨ c = '-'
  digits : IsDigits e.digits

/-- A numeral as the grammar has it. Zero is the only digit before the point, or
it is not the first. -/
structure Numeral.WellFormed (n : Numeral) : Prop where
  whole : IsDigits n.whole
  head : n.whole = ['0'] ∨ n.whole.head? ≠ some '0'
  fraction : ∀ digits ∈ n.fraction, IsDigits digits
  exponent : ∀ e ∈ n.exponent, e.WellFormed

/-- The text does not begin with a digit. -/
def EndsDigits (cs : List Char) : Prop := ∀ c ∈ cs.head?, c.isDigit = false

theorem scanDigits?_append {digits cs : List Char} (h : IsDigits digits) (hcs : EndsDigits cs) :
    scanDigits? (digits ++ cs) = some (digits, cs) := by
  have hnone : cs.takeWhile Char.isDigit = [] ∧ cs.dropWhile Char.isDigit = cs := by
    cases cs with
    | nil => exact ⟨rfl, rfl⟩
    | cons c cs =>
        have hc : c.isDigit = false := hcs c rfl
        simp [hc]
  have htake : (digits ++ cs).takeWhile Char.isDigit = digits := by
    rw [List.takeWhile_append_of_pos h.2, hnone.1, List.append_nil]
  have hdrop : (digits ++ cs).dropWhile Char.isDigit = cs := by
    rw [List.dropWhile_append_of_pos h.2, hnone.2]
  rw [scanDigits?, htake, hdrop]
  cases digits with
  | nil => exact absurd rfl h.1
  | cons d ds => rfl

theorem scanWhole?_append {whole cs : List Char} (h : IsDigits whole)
    (hhead : whole = ['0'] ∨ whole.head? ≠ some '0') (hcs : EndsDigits cs) :
    scanWhole? (whole ++ cs) = some (whole, cs) := by
  rcases hhead with rfl | hhead
  · rfl
  · rw [scanWhole?.eq_def]
    split
    · next rest heq =>
        cases whole with
        | nil => exact absurd rfl h.1
        | cons d ds =>
            rw [List.cons_append] at heq
            exact absurd (congrArg List.head? heq) hhead
    · exact scanDigits?_append h hcs

namespace Numeral

def fractionChars : Option (List Char) → List Char
  | none => []
  | some digits => '.' :: digits

def exponentChars : Option Exponent → List Char
  | none => []
  | some e => e.chars

theorem chars_eq (n : Numeral) :
    n.chars = (if n.negative then ['-'] else [])
      ++ (n.whole ++ (fractionChars n.fraction ++ exponentChars n.exponent)) := by
  obtain ⟨negative, whole, fraction, exponent⟩ := n
  cases fraction with
  | none => cases exponent <;> simp [chars, fractionChars, exponentChars]
  | some digits => cases exponent <;> simp [chars, fractionChars, exponentChars]

variable {n : Numeral}

theorem exponentChars_mark (h : n.WellFormed) :
    ∀ c ∈ (exponentChars n.exponent).head?, c = 'e' ∨ c = 'E' := by
  cases hexp : n.exponent with
  | none => simp [exponentChars]
  | some e =>
      intro c hc
      have hmark := (h.exponent e hexp).mark
      simp only [exponentChars, Exponent.chars, List.cons_append, List.head?_cons,
        Option.mem_some_iff] at hc
      rw [← hc]
      exact hmark

theorem endsDigits_exponentChars (h : n.WellFormed) : EndsDigits (exponentChars n.exponent) := by
  intro c hc
  rcases exponentChars_mark h c hc with rfl | rfl
  · rfl
  · rfl

theorem endsDigits_fractionChars (h : n.WellFormed) :
    EndsDigits (fractionChars n.fraction ++ exponentChars n.exponent) := by
  cases hfraction : n.fraction with
  | none => exact endsDigits_exponentChars h
  | some digits =>
      intro c hc
      rw [← Option.some.inj hc]
      rfl

theorem scanFraction?_chars (h : n.WellFormed) :
    scanFraction? (fractionChars n.fraction ++ exponentChars n.exponent)
      = some (n.fraction, exponentChars n.exponent) := by
  cases hfraction : n.fraction with
  | none =>
      rw [fractionChars, List.nil_append, scanFraction?.eq_def]
      split
      · next rest heq =>
          have := exponentChars_mark h '.' (by rw [heq]; rfl)
          simp at this
      · rfl
  | some digits =>
      have hdigits := h.fraction digits hfraction
      rw [fractionChars, List.cons_append, scanFraction?,
        scanDigits?_append hdigits (endsDigits_exponentChars h)]
      rfl

theorem scanSign_append {sign : Option Char} {digits : List Char}
    (hsign : ∀ c ∈ sign, c = '+' ∨ c = '-') (hdigits : IsDigits digits) :
    scanSign (sign.toList ++ digits) = (sign, digits) := by
  cases sign with
  | some c =>
      rcases hsign c rfl with rfl | rfl
      · rfl
      · rfl
  | none =>
      rw [Option.toList_none, List.nil_append, scanSign.eq_def]
      split
      · exact absurd (hdigits.2 '+' (by simp)) (by decide)
      · exact absurd (hdigits.2 '-' (by simp)) (by decide)
      · rfl

theorem scanExponent?_chars (h : n.WellFormed) :
    scanExponent? (exponentChars n.exponent) = some (n.exponent, []) := by
  cases hexp : n.exponent with
  | none => rfl
  | some e =>
      have he := h.exponent e hexp
      have hmark : (e.mark = 'e' || e.mark = 'E') = true := by
        simpa only [Bool.or_eq_true, decide_eq_true_eq] using he.mark
      have hscan := @scanDigits?_append _ [] he.digits (by simp [EndsDigits])
      rw [List.append_nil] at hscan
      rw [exponentChars, Exponent.chars, List.cons_append, scanExponent?, if_pos hmark,
        scanSign_append he.sign he.digits, hscan]
      rfl

/-- A numeral is scanned from its characters. -/
theorem scanNumeral?_chars (h : n.WellFormed) : scanNumeral? n.chars = some (n, []) := by
  have hunsigned : scanUnsigned? n.negative
      (n.whole ++ (fractionChars n.fraction ++ exponentChars n.exponent)) = some (n, []) := by
    rw [scanUnsigned?, scanWhole?_append h.whole h.head (endsDigits_fractionChars h)]
    simp only [Option.bind_eq_bind, Option.bind_some]
    rw [scanFraction?_chars h]
    simp only [Option.bind_some]
    rw [scanExponent?_chars h]
    rfl
  rw [chars_eq]
  cases hneg : n.negative with
  | true =>
      rw [hneg] at hunsigned
      exact hunsigned
  | false =>
      rw [hneg] at hunsigned
      rw [if_neg Bool.false_ne_true, List.nil_append, scanNumeral?.eq_def]
      split
      · next rest heq =>
          have hminus : n.whole.head? = some '-' := by
            cases hwhole : n.whole with
            | nil => exact absurd hwhole h.whole.1
            | cons d ds =>
                rw [hwhole, List.cons_append] at heq
                exact congrArg List.head? heq
          have := h.whole.2 '-' (List.mem_of_mem_head? hminus)
          exact absurd this (by decide)
      · exact hunsigned

end Numeral

end LoadScript.Json
