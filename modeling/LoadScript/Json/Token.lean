import LoadScript.Json.Number

/-!
# Tokens of a JSON text

`tokens?` cuts a text into the tokens of RFC 8259: punctuation, the three words, numerals and
strings. A string's escapes are resolved here. `\u` escapes stand for UTF-16 units, and a surrogate
that has no partner denotes no character; such a string is still a token, but one without text.
-/

namespace LoadScript.Json

inductive Token where
  | openBrace
  | closeBrace
  | openBracket
  | closeBracket
  | comma
  | colon
  | null
  | bool (value : Bool)
  | numeral (value : Numeral)
  /-- A string; without text when an escaped surrogate stands alone in it. -/
  | string (value : Option String)
  deriving DecidableEq, Repr

def isSpace (c : Char) : Bool := c = ' ' || c = '\t' || c = '\n' || c = '\r'

/-- What stands in a string: a character, written as itself or by a short escape, or a UTF-16 unit
given by its number. -/
inductive StringPiece where
  | char (c : Char)
  | unit (value : Nat)
  deriving DecidableEq, Repr

def hexDigit? (c : Char) : Option Nat :=
  if '0' ≤ c ∧ c ≤ '9' then some (c.toNat - '0'.toNat)
  else if 'a' ≤ c ∧ c ≤ 'f' then some (c.toNat - 'a'.toNat + 10)
  else if 'A' ≤ c ∧ c ≤ 'F' then some (c.toNat - 'A'.toNat + 10)
  else none

def hexUnit? (a b c d : Char) : Option Nat := do
  let a ← hexDigit? a
  let b ← hexDigit? b
  let c ← hexDigit? c
  let d ← hexDigit? d
  some (((a * 16 + b) * 16 + c) * 16 + d)

def shortEscape? (letter : Char) : Option Char :=
  match letter with
  | '"' => some '"'
  | '\\' => some '\\'
  | '/' => some '/'
  | 'b' => some '\x08'
  | 'f' => some '\x0c'
  | 'n' => some '\n'
  | 'r' => some '\r'
  | 't' => some '\t'
  | _ => none

/-- The pieces of a string up to its closing quote, and what follows the quote. Control characters
have to be escaped. -/
def scanString : List Char → Option (List StringPiece × List Char)
  | [] => none
  | '"' :: rest => some ([], rest)
  | '\\' :: 'u' :: a :: b :: c :: d :: rest => do
    let value ← hexUnit? a b c d
    let (pieces, rest) ← scanString rest
    some (.unit value :: pieces, rest)
  | '\\' :: letter :: rest => do
    let c ← shortEscape? letter
    let (pieces, rest) ← scanString rest
    some (.char c :: pieces, rest)
  | c :: rest =>
    if c = '\\' || c < ' ' then none else do
    let (pieces, rest) ← scanString rest
    some (.char c :: pieces, rest)

def isHighSurrogate (unit : Nat) : Bool := 0xD800 ≤ unit && unit < 0xDC00

def isLowSurrogate (unit : Nat) : Bool := 0xDC00 ≤ unit && unit < 0xE000

/-- The characters that pieces stand for; none when a surrogate has no partner right beside it. -/
def joinPieces? : List StringPiece → Option (List Char)
  | [] => some []
  | .char c :: rest => (joinPieces? rest).map (c :: ·)
  | .unit high :: .unit low :: rest =>
    if isHighSurrogate high then
      if isLowSurrogate low then
        (joinPieces? rest).map
          (Char.ofNat (0x10000 + (high - 0xD800) * 0x400 + (low - 0xDC00)) :: ·)
      else none
    else if isLowSurrogate high then none
    else (joinPieces? (.unit low :: rest)).map (Char.ofNat high :: ·)
  | .unit unit :: rest =>
    if isHighSurrogate unit || isLowSurrogate unit then none
    else (joinPieces? rest).map (Char.ofNat unit :: ·)

def scanDigits? (cs : List Char) : Option (List Char × List Char) :=
  match cs.takeWhile Char.isDigit with
  | [] => none
  | digits => some (digits, cs.dropWhile Char.isDigit)

/-- The digits before the point: a zero, or digits that do not start with one. -/
def scanWhole? : List Char → Option (List Char × List Char)
  | '0' :: rest => some (['0'], rest)
  | cs => scanDigits? cs

def scanFraction? : List Char → Option (Option (List Char) × List Char)
  | '.' :: rest => (scanDigits? rest).map fun (digits, rest) => (some digits, rest)
  | cs => some (none, cs)

def scanSign : List Char → Option Char × List Char
  | '+' :: rest => (some '+', rest)
  | '-' :: rest => (some '-', rest)
  | cs => (none, cs)

def scanExponent? : List Char → Option (Option Numeral.Exponent × List Char)
  | mark :: rest =>
    if mark = 'e' || mark = 'E' then
      (scanDigits? (scanSign rest).2).map fun (digits, after) =>
        (some ⟨mark, (scanSign rest).1, digits⟩, after)
    else some (none, mark :: rest)
  | [] => some (none, [])

def scanUnsigned? (negative : Bool) (cs : List Char) : Option (Numeral × List Char) := do
  let (whole, cs) ← scanWhole? cs
  let (fraction, cs) ← scanFraction? cs
  let (exponent, cs) ← scanExponent? cs
  some (⟨negative, whole, fraction, exponent⟩, cs)

def scanNumeral? : List Char → Option (Numeral × List Char)
  | '-' :: rest => scanUnsigned? true rest
  | cs => scanUnsigned? false cs

def scanToken? : List Char → Option (Token × List Char)
  | '\x7b' :: rest => some (.openBrace, rest)
  | '\x7d' :: rest => some (.closeBrace, rest)
  | '[' :: rest => some (.openBracket, rest)
  | ']' :: rest => some (.closeBracket, rest)
  | ',' :: rest => some (.comma, rest)
  | ':' :: rest => some (.colon, rest)
  | 'n' :: 'u' :: 'l' :: 'l' :: rest => some (.null, rest)
  | 't' :: 'r' :: 'u' :: 'e' :: rest => some (.bool true, rest)
  | 'f' :: 'a' :: 'l' :: 's' :: 'e' :: rest => some (.bool false, rest)
  | '"' :: rest => (scanString rest).map fun (pieces, rest) =>
    (.string ((joinPieces? pieces).map String.ofList), rest)
  | cs => (scanNumeral? cs).map fun (numeral, rest) => (.numeral numeral, rest)

/-! ## Every token takes something off the text -/

theorem length_scanString {cs rest : List Char} {pieces : List StringPiece}
    (h : scanString cs = some (pieces, rest)) : rest.length < cs.length := by
  fun_induction scanString cs generalizing pieces rest with
  | case1 => simp at h
  | case2 => simp_all
  | case3 a b c d tail ih =>
    simp only [Option.bind_eq_bind, Option.bind_eq_some_iff, Option.some.injEq, Prod.mk.injEq,
      Prod.exists] at h
    obtain ⟨_, _, _, _, hs, _, rfl⟩ := h
    have := ih hs
    simp only [List.length_cons]
    omega
  | case4 letter tail _ ih =>
    simp only [Option.bind_eq_bind, Option.bind_eq_some_iff, Option.some.injEq, Prod.mk.injEq,
      Prod.exists] at h
    obtain ⟨_, _, _, _, hs, _, rfl⟩ := h
    have := ih hs
    simp only [List.length_cons]
    omega
  | case5 => simp at h
  | case6 c tail _ _ _ _ ih =>
    simp only [Option.bind_eq_bind, Option.bind_eq_some_iff, Option.some.injEq, Prod.mk.injEq,
      Prod.exists] at h
    obtain ⟨_, _, hs, _, rfl⟩ := h
    have := ih hs
    simp only [List.length_cons]
    omega

theorem length_scanDigits? {cs digits rest : List Char} (h : scanDigits? cs = some (digits, rest)) :
    rest.length < cs.length := by
  unfold scanDigits? at h
  split at h
  · simp at h
  · next hd =>
    simp only [Option.some.injEq, Prod.mk.injEq] at h
    obtain ⟨rfl, rfl⟩ := h
    have hlen := congrArg List.length (List.takeWhile_append_dropWhile (p := Char.isDigit) (l := cs))
    rw [List.length_append] at hlen
    have : (cs.takeWhile Char.isDigit).length ≠ 0 := fun e => hd (List.eq_nil_of_length_eq_zero e)
    omega

theorem length_scanWhole? {cs digits rest : List Char} (h : scanWhole? cs = some (digits, rest)) :
    rest.length < cs.length := by
  unfold scanWhole? at h
  split at h
  · simp_all
  · exact length_scanDigits? h

theorem length_scanFraction? {cs rest : List Char} {fraction : Option (List Char)}
    (h : scanFraction? cs = some (fraction, rest)) : rest.length ≤ cs.length := by
  unfold scanFraction? at h
  split at h
  · obtain ⟨⟨digits, rest'⟩, hs, he⟩ := Option.map_eq_some_iff.1 h
    have := length_scanDigits? hs
    simp only [Prod.mk.injEq] at he
    simp only [List.length_cons, ← he.2]
    omega
  · simp_all

theorem length_scanSign (cs : List Char) : (scanSign cs).2.length ≤ cs.length := by
  unfold scanSign
  split <;> simp

theorem length_scanExponent? {cs rest : List Char} {exponent : Option Numeral.Exponent}
    (h : scanExponent? cs = some (exponent, rest)) : rest.length ≤ cs.length := by
  unfold scanExponent? at h
  split at h
  · next mark tail =>
    split at h
    · obtain ⟨⟨digits, rest'⟩, hs, he⟩ := Option.map_eq_some_iff.1 h
      have := length_scanDigits? hs
      have := length_scanSign tail
      simp only [Prod.mk.injEq] at he
      simp only [List.length_cons, ← he.2]
      omega
    · simp_all
  · simp_all

theorem length_scanUnsigned? {cs rest : List Char} {negative : Bool} {numeral : Numeral}
    (h : scanUnsigned? negative cs = some (numeral, rest)) : rest.length < cs.length := by
  simp only [scanUnsigned?, Option.bind_eq_bind, Option.bind_eq_some_iff, Option.some.injEq,
    Prod.mk.injEq, Prod.exists] at h
  obtain ⟨_, _, hw, _, _, hf, _, _, he, _, rfl⟩ := h
  have := length_scanWhole? hw
  have := length_scanFraction? hf
  have := length_scanExponent? he
  omega

theorem length_scanNumeral? {cs rest : List Char} {numeral : Numeral}
    (h : scanNumeral? cs = some (numeral, rest)) : rest.length < cs.length := by
  unfold scanNumeral? at h
  split at h
  · have := length_scanUnsigned? h
    simp only [List.length_cons]
    omega
  · exact length_scanUnsigned? h

theorem length_scanToken? {cs rest : List Char} {token : Token}
    (h : scanToken? cs = some (token, rest)) : rest.length < cs.length := by
  unfold scanToken? at h
  split at h
  case h_10 tail =>
    obtain ⟨⟨pieces, rest'⟩, hs, he⟩ := Option.map_eq_some_iff.1 h
    have := length_scanString hs
    simp only [Prod.mk.injEq] at he
    simp only [List.length_cons, ← he.2]
    omega
  case h_11 =>
    obtain ⟨⟨numeral, rest'⟩, hs, he⟩ := Option.map_eq_some_iff.1 h
    have := length_scanNumeral? hs
    simp only [Prod.mk.injEq] at he
    rw [← he.2]
    omega
  all_goals
    simp only [Option.some.injEq, Prod.mk.injEq] at h
    simp only [List.length_cons, ← h.2]
    omega

/-- The tokens of a text; none when some part of it is no token. -/
def tokens? : List Char → Option (List Token)
  | [] => some []
  | c :: cs =>
    if isSpace c then tokens? cs else
    match _h : scanToken? (c :: cs) with
    | none => none
    | some (token, rest) => (tokens? rest).map (token :: ·)
termination_by cs => cs.length
decreasing_by
  · simp
  · exact length_scanToken? _h

end LoadScript.Json
