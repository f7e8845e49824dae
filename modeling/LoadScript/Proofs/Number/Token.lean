import LoadScript.Json.Tree
import LoadScript.Proofs.Number.Numeral

/-!
# Numerals in a document

A numeral that is scanned keeps to the grammar, and its characters are what has
been taken off the text (`scanNumeral?_sound`). Nothing happens to it on the way
into a tree: the numerals of a tree are the ones among the tokens, in their order
(`Tree.numerals_of_parse?`). One token after the other is put into the containers
that are open, so what has been read so far is what they hold from the outermost
to the innermost, and a step adds its token's numeral at the end.
-/

namespace LoadScript.Json

/-! ## What is scanned -/

theorem scanDigits?_sound {cs digits rest : List Char} (h : scanDigits? cs = some (digits, rest)) :
    IsDigits digits ∧ digits ++ rest = cs := by
  rw [scanDigits?.eq_def] at h
  split at h
  · cases h
  · next hne =>
      obtain ⟨rfl, rfl⟩ := Prod.mk.inj (Option.some.inj h)
      exact ⟨⟨hne, List.all_eq_true.1 List.all_takeWhile⟩, List.takeWhile_append_dropWhile⟩

theorem scanWhole?_sound {cs whole rest : List Char} (h : scanWhole? cs = some (whole, rest)) :
    IsDigits whole ∧ (whole = ['0'] ∨ whole.head? ≠ some '0') ∧ whole ++ rest = cs := by
  rw [scanWhole?.eq_def] at h
  split at h
  · obtain ⟨rfl, rfl⟩ := Prod.mk.inj (Option.some.inj h)
    exact ⟨isDigits_zero, Or.inl rfl, rfl⟩
  · next hzero =>
      obtain ⟨hdigits, rfl⟩ := scanDigits?_sound h
      refine ⟨hdigits, Or.inr fun hhead => ?_, rfl⟩
      obtain ⟨more, rfl⟩ := List.head?_eq_some_iff.1 hhead
      exact hzero _ rfl

theorem scanFraction?_sound {cs rest : List Char} {fraction : Option (List Char)}
    (h : scanFraction? cs = some (fraction, rest)) :
    (∀ digits ∈ fraction, IsDigits digits) ∧ Numeral.fractionChars fraction ++ rest = cs := by
  rw [scanFraction?.eq_def] at h
  split at h
  · obtain ⟨⟨digits, behind⟩, hdigits, heq⟩ := Option.map_eq_some_iff.1 h
    obtain ⟨rfl, rfl⟩ := Prod.mk.inj heq
    obtain ⟨hwell, happend⟩ := scanDigits?_sound hdigits
    refine ⟨fun other hother => ?_, congrArg (List.cons '.') happend⟩
    rw [← Option.some.inj hother]
    exact hwell
  · obtain ⟨rfl, rfl⟩ := Prod.mk.inj (Option.some.inj h)
    exact ⟨by simp, rfl⟩

theorem scanSign_sound (cs : List Char) :
    (∀ c ∈ (scanSign cs).1, c = '+' ∨ c = '-')
      ∧ (scanSign cs).1.toList ++ (scanSign cs).2 = cs := by
  rw [scanSign.eq_def]
  split
  · exact ⟨fun c hc => Or.inl (Option.some.inj hc).symm, rfl⟩
  · exact ⟨fun c hc => Or.inr (Option.some.inj hc).symm, rfl⟩
  · exact ⟨by simp, rfl⟩

theorem scanExponent?_sound {cs rest : List Char} {exponent : Option Numeral.Exponent}
    (h : scanExponent? cs = some (exponent, rest)) :
    (∀ e ∈ exponent, e.WellFormed) ∧ Numeral.exponentChars exponent ++ rest = cs := by
  rw [scanExponent?.eq_def] at h
  split at h
  · next mark behind =>
      split at h
      · next hmark =>
          obtain ⟨⟨digits, after⟩, hdigits, heq⟩ := Option.map_eq_some_iff.1 h
          obtain ⟨rfl, rfl⟩ := Prod.mk.inj heq
          obtain ⟨hsign, hbehind⟩ := scanSign_sound behind
          obtain ⟨hwell, happend⟩ := scanDigits?_sound hdigits
          refine ⟨fun e he => ?_, ?_⟩
          · rw [← Option.some.inj he]
            exact ⟨by simpa only [Bool.or_eq_true, decide_eq_true_eq] using hmark, hsign, hwell⟩
          · rw [Numeral.exponentChars, Numeral.Exponent.chars, List.append_assoc, happend,
              List.cons_append, hbehind]
      · obtain ⟨rfl, rfl⟩ := Prod.mk.inj (Option.some.inj h)
        exact ⟨by simp, rfl⟩
  · obtain ⟨rfl, rfl⟩ := Prod.mk.inj (Option.some.inj h)
    exact ⟨by simp, rfl⟩

theorem scanUnsigned?_sound {negative : Bool} {cs rest : List Char} {n : Numeral}
    (h : scanUnsigned? negative cs = some (n, rest)) :
    n.WellFormed ∧ n.negative = negative
      ∧ n.whole ++ (Numeral.fractionChars n.fraction ++ Numeral.exponentChars n.exponent) ++ rest
        = cs := by
  simp only [scanUnsigned?, Option.bind_eq_bind, Option.bind_eq_some_iff, Prod.exists] at h
  obtain ⟨whole, behindWhole, hwhole, fraction, behindFraction, hfraction, exponent, behind,
    hexponent, heq⟩ := h
  obtain ⟨rfl, rfl⟩ := Prod.mk.inj (Option.some.inj heq)
  obtain ⟨hdigits, hhead, rfl⟩ := scanWhole?_sound hwhole
  obtain ⟨hfractions, rfl⟩ := scanFraction?_sound hfraction
  obtain ⟨hexponents, rfl⟩ := scanExponent?_sound hexponent
  exact ⟨⟨hdigits, hhead, hfractions, hexponents⟩, rfl, by simp only [List.append_assoc]⟩

/-- A numeral that is scanned keeps to the grammar and stands at the start of the text. -/
theorem scanNumeral?_sound {cs rest : List Char} {n : Numeral}
    (h : scanNumeral? cs = some (n, rest)) : n.WellFormed ∧ n.chars ++ rest = cs := by
  rw [scanNumeral?.eq_def] at h
  split at h
  · obtain ⟨hwell, hnegative, happend⟩ := scanUnsigned?_sound h
    exact ⟨hwell, by rw [Numeral.chars_eq, hnegative, ← happend]; rfl⟩
  · obtain ⟨hwell, hnegative, happend⟩ := scanUnsigned?_sound h
    exact ⟨hwell, by rw [Numeral.chars_eq, hnegative, ← happend]; rfl⟩

def Token.numeral? : Token → Option Numeral
  | .numeral n => some n
  | _ => none

theorem scanToken?_sound {cs rest : List Char} {n : Numeral}
    (h : scanToken? cs = some (.numeral n, rest)) : n.WellFormed ∧ n.chars ++ rest = cs := by
  rw [scanToken?.eq_def] at h
  split at h
  case h_10 =>
    obtain ⟨_, -, heq⟩ := Option.map_eq_some_iff.1 h
    cases heq
  case h_11 =>
    obtain ⟨⟨scanned, behind⟩, hscan, heq⟩ := Option.map_eq_some_iff.1 h
    cases heq
    exact scanNumeral?_sound hscan
  all_goals cases h

theorem suffix_scanString {cs rest : List Char} {pieces : List StringPiece}
    (h : scanString cs = some (pieces, rest)) : rest <:+ cs := by
  fun_induction scanString cs generalizing pieces rest with
  | case1 => cases h
  | case2 =>
      cases h
      exact List.suffix_cons _ _
  | case3 a b c d tail ih =>
      simp only [Option.bind_eq_bind, Option.bind_eq_some_iff, Prod.exists] at h
      obtain ⟨_, -, _, _, hs, heq⟩ := h
      cases heq
      exact (ih hs).trans ⟨['\\', 'u', a, b, c, d], rfl⟩
  | case4 letter tail _ ih =>
      simp only [Option.bind_eq_bind, Option.bind_eq_some_iff, Prod.exists] at h
      obtain ⟨_, -, _, _, hs, heq⟩ := h
      cases heq
      exact (ih hs).trans ⟨['\\', letter], rfl⟩
  | case5 => cases h
  | case6 c tail _ _ _ _ ih =>
      simp only [Option.bind_eq_bind, Option.bind_eq_some_iff, Prod.exists] at h
      obtain ⟨_, _, hs, heq⟩ := h
      cases heq
      exact (ih hs).trans (List.suffix_cons c tail)

theorem suffix_scanToken? {cs rest : List Char} {token : Token}
    (h : scanToken? cs = some (token, rest)) : rest <:+ cs := by
  rw [scanToken?.eq_def] at h
  split at h
  case h_10 tail =>
    obtain ⟨⟨pieces, behind⟩, hs, heq⟩ := Option.map_eq_some_iff.1 h
    cases heq
    exact (suffix_scanString hs).trans (List.suffix_cons _ _)
  case h_11 =>
    obtain ⟨⟨scanned, behind⟩, hscan, heq⟩ := Option.map_eq_some_iff.1 h
    cases heq
    exact ⟨_, (scanNumeral?_sound hscan).2⟩
  all_goals
    cases h
    simp only [List.suffix_cons_iff, List.suffix_rfl, or_true]

/-- The numerals among the tokens of a text keep to the grammar and stand in the text. -/
theorem numeral_of_tokens? {cs : List Char} {ts : List Token} (h : tokens? cs = some ts)
    {n : Numeral} (hn : Token.numeral n ∈ ts) : n.WellFormed ∧ n.chars <:+: cs := by
  fun_induction tokens? cs generalizing ts with
  | case1 =>
      rw [← Option.some.inj h] at hn
      exact absurd hn List.not_mem_nil
  | case2 c cs _ ih =>
      obtain ⟨hwell, hin⟩ := ih h hn
      exact ⟨hwell, hin.trans (List.suffix_cons c cs).isInfix⟩
  | case3 => cases h
  | case4 c cs _ token rest hscan ih =>
      obtain ⟨others, hothers, rfl⟩ := Option.map_eq_some_iff.1 h
      rcases List.mem_cons.1 hn with rfl | hn
      · obtain ⟨hwell, happend⟩ := scanToken?_sound hscan
        exact ⟨hwell, [], rest, happend⟩
      · obtain ⟨hwell, hin⟩ := ih hothers hn
        exact ⟨hwell, hin.trans (suffix_scanToken? hscan).isInfix⟩

/-! ## What is in a tree -/

namespace Tree

mutual

/-- The numerals in a tree, in the order in which they are written. -/
def numerals : Tree → List Numeral
  | .null | .bool _ | .string _ => []
  | .numeral n => [n]
  | .array elements => elementNumerals elements
  | .object members => memberNumerals members
  termination_by structural tree => tree

def elementNumerals : List Tree → List Numeral
  | [] => []
  | tree :: rest => numerals tree ++ elementNumerals rest
  termination_by structural trees => trees

def memberNumerals : List (Option String × Tree) → List Numeral
  | [] => []
  | (_, tree) :: rest => numerals tree ++ memberNumerals rest
  termination_by structural members => members

end

theorem elementNumerals_eq (elements : List Tree) :
    elementNumerals elements = elements.flatMap numerals := by
  induction elements with
  | nil => rfl
  | cons tree rest ih => rw [elementNumerals, List.flatMap_cons, ih]

theorem memberNumerals_eq (members : List (Option String × Tree)) :
    memberNumerals members = members.flatMap fun m => m.2.numerals := by
  induction members with
  | nil => rfl
  | cons m rest ih =>
      obtain ⟨label, tree⟩ := m
      rw [memberNumerals, List.flatMap_cons, ih]

def Frame.numerals : Frame → List Numeral
  | .array elements => elements.reverse.flatMap Tree.numerals
  | .object members | .member members _ => members.reverse.flatMap fun m => m.2.numerals

def Expect.numerals : Expect → List Numeral
  | .after tree => tree.numerals
  | _ => []

def read (expect : Expect) (frames : List Frame) : List Numeral :=
  frames.reverse.flatMap Frame.numerals ++ expect.numerals

theorem ofToken?_numerals {token : Token} {tree : Tree} (h : ofToken? token = some tree) :
    tree.numerals = token.numeral?.toList := by
  cases token with
  | null | bool | string =>
      rw [← Option.some.inj h]
      rfl
  | numeral n =>
      rw [← Option.some.inj h]
      rfl
  | _ => cases h

/-- A step reads the numeral of its token, if that is one. -/
theorem read_step? {expect next : Expect} {frames inner : List Frame} {token : Token}
    (h : step? expect frames token = some (next, inner)) :
    read next inner = read expect frames ++ token.numeral?.toList := by
  rw [step?.eq_def] at h
  split at h
  case h_6 | h_7 =>
    obtain ⟨value, hvalue, heq⟩ := Option.map_eq_some_iff.1 h
    cases heq
    simp [read, Expect.numerals, ofToken?_numerals hvalue]
  all_goals cases h
  all_goals
    simp [read, Expect.numerals, Frame.numerals, Token.numeral?, numerals, elementNumerals_eq,
      memberNumerals_eq]

theorem numerals_of_ofTokensFrom? {expect : Expect} {frames : List Frame} {ts : List Token}
    {tree : Tree} (h : ofTokensFrom? expect frames ts = some tree) :
    tree.numerals = read expect frames ++ ts.filterMap Token.numeral? := by
  induction ts generalizing expect frames with
  | nil =>
      rw [ofTokensFrom?.eq_def] at h
      simp only at h
      split at h
      · cases h
        simp [read, Expect.numerals]
      · cases h
  | cons token rest ih =>
      rw [ofTokensFrom?] at h
      cases hstep : step? expect frames token with
      | none =>
          rw [hstep] at h
          cases h
      | some state =>
          obtain ⟨next, inner⟩ := state
          rw [hstep] at h
          rw [ih h, read_step? hstep, List.filterMap_cons, List.append_assoc]
          cases token.numeral? <;> rfl

/-- The numerals of a document are those among its tokens, in their order. -/
theorem numerals_of_parse? {text : String} {tree : Tree} (h : parse? text = some tree) :
    ∃ ts, tokens? text.toList = some ts ∧ tree.numerals = ts.filterMap Token.numeral? := by
  obtain ⟨ts, hts, htree⟩ := Option.bind_eq_some_iff.1 h
  exact ⟨ts, hts, numerals_of_ofTokensFrom? htree⟩

/-- A numeral of a document keeps to the grammar and stands in the text. -/
theorem numeral_of_parse? {text : String} {tree : Tree} (h : parse? text = some tree) {n : Numeral}
    (hn : n ∈ tree.numerals) : n.WellFormed ∧ n.chars <:+: text.toList := by
  obtain ⟨ts, hts, hnumerals⟩ := numerals_of_parse? h
  rw [hnumerals] at hn
  obtain ⟨token, htoken, hnumeral⟩ := List.mem_filterMap.1 hn
  cases token with
  | numeral other =>
      obtain rfl : other = n := Option.some.inj hnumeral
      exact numeral_of_tokens? hts htoken
  | _ => cases hnumeral

end Tree

end LoadScript.Json
