import LoadScript.Proofs.LineBreak

/-!
# String literals and property names end by themselves

Whatever follows a quoted text, a reader of string literals takes the quoted text
off and nothing else, and so does a reader of property names with a property name
that a colon follows. So a text cannot reach beyond its literal, and where it ends
need not be known before it is read.

The readers are those of ECMAScript 2019, with all that a literal may contain: the
machine that reads the tokens of a script refuses most of it, but what stands
behind a literal, and how far the literal goes, should not be left to a reader that
was made for scripts. Escapes may denote a single UTF-16 unit, and a literal with
an unpaired surrogate in it is read but denotes no text. Which characters beyond
ASCII belong to names is left open, since each version of Unicode adds some.
-/

namespace LoadScript.Ecma

open Json (StringPiece hexDigit? hexUnit? joinPieces?)

/-! ## Escapes -/

/-- The rest of a code point between braces, of which `value` is read. -/
def readBraced? (value : Nat) : List Char → Option (Nat × List Char)
  | [] => none
  | '\x7d' :: rest => some (value, rest)
  | c :: rest => do
    let digit ← hexDigit? c
    if value * 16 + digit ≤ 0x10FFFF then readBraced? (value * 16 + digit) rest else none

/-- The code point behind `\u`, and what follows it: four digits, or one digit and
more between braces. -/
def readCodePoint? : List Char → Option (Nat × List Char)
  | '\x7b' :: c :: rest => (hexDigit? c).bind fun digit => readBraced? digit rest
  | a :: b :: c :: d :: rest => (hexUnit? a b c d).map fun unit => (unit, rest)
  | _ => none

def pieceOf (codePoint : Nat) : StringPiece :=
  if codePoint < 0x10000 then .unit codePoint else .char (Char.ofNat codePoint)

def escaped (letter : Char) : Char :=
  match letter with
  | 'b' => '\x08'
  | 't' => '\t'
  | 'n' => '\n'
  | 'v' => '\x0B'
  | 'f' => '\x0C'
  | 'r' => '\r'
  | c => c

/-- What an escape denotes, and what follows it. The backslash has been read; a line
terminator behind it is left out together with it. -/
def readEscape? : List Char → Option (List StringPiece × List Char)
  | [] => none
  | '\r' :: '\n' :: rest => some ([], rest)
  | 'x' :: a :: b :: rest => (hexUnit? '0' '0' a b).map fun unit => ([.unit unit], rest)
  | 'u' :: rest => (readCodePoint? rest).map fun (codePoint, rest) => ([pieceOf codePoint], rest)
  | '0' :: rest => if rest.head?.any Char.isDigit then none else some ([.char '\x00'], rest)
  | c :: rest =>
    if endsLine c then some ([], rest)
    else if c.isDigit || c = 'x' then none
    else some ([.char (escaped c)], rest)

theorem length_readBraced? {value code : Nat} {cs rest : List Char}
    (h : readBraced? value cs = some (code, rest)) : rest.length < cs.length := by
  fun_induction readBraced? value cs with
  | case1 => simp at h
  | case2 => simp_all
  | case3 value c tail _ ih =>
      simp only [Option.bind_eq_bind, Option.bind_eq_some_iff] at h
      obtain ⟨digit, -, hdigit⟩ := h
      split at hdigit
      · have := ih digit hdigit
        simp only [List.length_cons]
        omega
      · cases hdigit

theorem length_readCodePoint? {code : Nat} {cs rest : List Char}
    (h : readCodePoint? cs = some (code, rest)) : rest.length < cs.length := by
  unfold readCodePoint? at h
  split at h
  · obtain ⟨digit, -, hdigit⟩ := Option.bind_eq_some_iff.1 h
    have := length_readBraced? hdigit
    simp only [List.length_cons]
    omega
  · obtain ⟨unit, -, hunit⟩ := Option.map_eq_some_iff.1 h
    simp only [Prod.mk.injEq] at hunit
    simp only [← hunit.2, List.length_cons]
    omega
  · cases h

theorem length_readEscape? {pieces : List StringPiece} {cs rest : List Char}
    (h : readEscape? cs = some (pieces, rest)) : rest.length < cs.length := by
  unfold readEscape? at h
  split at h
  · cases h
  · simp_all only [Option.some.injEq, Prod.mk.injEq, List.length_cons]
    omega
  · obtain ⟨unit, -, hunit⟩ := Option.map_eq_some_iff.1 h
    simp only [Prod.mk.injEq] at hunit
    simp only [← hunit.2, List.length_cons]
    omega
  · obtain ⟨⟨code, after⟩, hcode, hafter⟩ := Option.map_eq_some_iff.1 h
    have := length_readCodePoint? hcode
    simp only [Prod.mk.injEq] at hafter
    simp only [← hafter.2, List.length_cons]
    omega
  · split at h
    · cases h
    · simp_all
  · split at h
    · simp_all
    · split at h
      · cases h
      · simp_all

/-! ## String literals -/

/-- What stands in a string literal up to its closing mark, and what follows the
mark. A line separator may stand in it, a line feed or carriage return may not. -/
def readInside? (mark : Char) : List Char → Option (List StringPiece × List Char)
  | [] => none
  | c :: rest =>
    if c = mark then some ([], rest)
    else if c = '\\' then
      match _h : readEscape? rest with
      | none => none
      | some (pieces, after) =>
        (readInside? mark after).map fun (more, rest) => (pieces ++ more, rest)
    else if c = '\n' || c = '\r' then none
    else (readInside? mark rest).map fun (more, rest) => (.char c :: more, rest)
termination_by cs => cs.length
decreasing_by
  · have := length_readEscape? _h
    simp only [List.length_cons]
    omega
  · simp

/-- The string literal between two marks that a text begins with, and what follows
it. The literal is given by the text that it denotes, if it denotes one. -/
def readString? (mark : Char) : List Char → Option (Option String × List Char)
  | [] => none
  | c :: rest =>
    if c = mark then
      (readInside? mark rest).map fun (pieces, rest) =>
        ((joinPieces? pieces).map String.ofList, rest)
    else none

/-! ## Property names -/

/-- Which characters beyond ASCII may begin a name, and which may stand in it. -/
structure Alphabet where
  begins : Char → Bool
  continues : Char → Bool

def Alphabet.starts (alphabet : Alphabet) (c : Char) : Bool :=
  if c.toNat < 0x80 then startsName c else alphabet.begins c

def Alphabet.carries (alphabet : Alphabet) (c : Char) : Bool :=
  if c.toNat < 0x80 then continuesName c else alphabet.continues c

/-- A character of a name, as itself or escaped, and what follows it. -/
def readLetter? (allowed : Char → Bool) : List Char → Option (Char × List Char)
  | [] => none
  | '\\' :: 'u' :: rest => do
    let (codePoint, rest) ← readCodePoint? rest
    if codePoint.isValidChar && allowed (Char.ofNat codePoint)
    then some (Char.ofNat codePoint, rest) else none
  | c :: rest => if allowed c then some (c, rest) else none

theorem length_readLetter? {allowed : Char → Bool} {c : Char} {cs rest : List Char}
    (h : readLetter? allowed cs = some (c, rest)) : rest.length < cs.length := by
  unfold readLetter? at h
  split at h
  · cases h
  · simp only [Option.bind_eq_bind, Option.bind_eq_some_iff] at h
    obtain ⟨⟨code, after⟩, hcode, hafter⟩ := h
    have := length_readCodePoint? hcode
    split at hafter
    · simp only [Option.some.injEq, Prod.mk.injEq] at hafter
      simp only [← hafter.2, List.length_cons]
      omega
    · cases hafter
  · split at h
    · simp_all
    · cases h

/-- The characters of a name behind its first, and what follows the name. It goes on
for as long as it can, and a backslash always belongs to it. -/
def readLetters? (alphabet : Alphabet) : List Char → Option (List Char × List Char)
  | [] => some ([], [])
  | c :: rest =>
    if c = '\\' || alphabet.carries c then
      match _h : readLetter? alphabet.carries (c :: rest) with
      | none => none
      | some (letter, after) =>
        (readLetters? alphabet after).map fun (more, rest) => (letter :: more, rest)
    else some ([], c :: rest)
termination_by cs => cs.length
decreasing_by exact length_readLetter? _h

def readName? (alphabet : Alphabet) (cs : List Char) : Option (String × List Char) := do
  let (first, rest) ← readLetter? alphabet.starts cs
  let (more, rest) ← readLetters? alphabet rest
  some (String.ofList (first :: more), rest)

/-- The property name that a text begins with, an identifier name or a string
literal, and what follows it. -/
def readPropertyName? (alphabet : Alphabet) (cs : List Char) :
    Option (Option String × List Char) :=
  match cs.head? with
  | some '"' => readString? '"' cs
  | some '\x27' => readString? '\x27' cs
  | _ => (readName? alphabet cs).map fun (name, rest) => (some name, rest)

/-! ## Quoted texts -/

theorem readInside?_self {mark c : Char} (hmark : c ≠ mark) (h : c ≠ '\\') (hn : c ≠ '\n')
    (hr : c ≠ '\r') (rest : List Char) :
    readInside? mark (c :: rest)
      = (readInside? mark rest).map fun (more, rest) => (.char c :: more, rest) := by
  rw [readInside?, if_neg hmark, if_neg h, if_neg (by simp [hn, hr])]

theorem readInside?_escape {mark letter c : Char} (hmark : '\\' ≠ mark) {rest : List Char}
    (h : readEscape? (letter :: rest) = some ([.char c], rest)) :
    readInside? mark (['\\', letter] ++ rest)
      = (readInside? mark rest).map fun (more, rest) => (.char c :: more, rest) := by
  rw [List.cons_append, readInside?, if_neg hmark, if_pos rfl]
  split
  · next hnone =>
      rw [List.singleton_append, h] at hnone
      cases hnone
  · next hsome =>
      rw [List.singleton_append, h, Option.some.injEq, Prod.mk.injEq] at hsome
      obtain ⟨rfl, rfl⟩ := hsome
      rfl

/-- A character inside double quotes is read as the character. -/
theorem readInside?_quotedChar (c : Char) (rest : List Char) :
    readInside? '"' (Script.quotedChar c ++ rest)
      = (readInside? '"' rest).map fun (more, rest) => (.char c :: more, rest) := by
  have hmark : '\\' ≠ '"' := by decide
  unfold Script.quotedChar
  split
  · exact readInside?_escape hmark rfl
  · exact readInside?_escape hmark rfl
  · exact readInside?_escape hmark rfl
  · exact readInside?_escape hmark rfl
  · next hslash hquote hn hr => exact readInside?_self hquote hslash hn hr rest

theorem readInside?_quotedChars (cs rest : List Char) :
    readInside? '"' (Script.quotedChars cs ++ '"' :: rest) = some (cs.map .char, rest) := by
  induction cs with
  | nil =>
      have hclose : readInside? '"' ('"' :: rest) = some ([], rest) := by
        rw [readInside?, if_pos rfl]
      exact hclose
  | cons c cs ih =>
      have hsplit : Script.quotedChars (c :: cs) = Script.quotedChar c ++ Script.quotedChars cs := rfl
      rw [hsplit, List.append_assoc, readInside?_quotedChar, ih]
      rfl

theorem joinPieces?_map_char (cs : List Char) : joinPieces? (cs.map .char) = some cs := by
  induction cs with
  | nil => rfl
  | cons c cs ih => rw [List.map_cons, joinPieces?, ih, Option.map_some]

theorem toList_quote (s : String) :
    (Script.quote s).toList = '"' :: (Script.quotedChars s.toList ++ ['"']) := by
  simp [Script.quote]

theorem readString?_toList_quote (s : String) (rest : List Char) :
    readString? '"' ((Script.quote s).toList ++ rest) = some (some s, rest) := by
  rw [toList_quote, List.cons_append, List.append_assoc, List.singleton_append, readString?,
    if_pos rfl, readInside?_quotedChars, Option.map_some]
  simp only [joinPieces?_map_char, Option.map_some, String.ofList_toList]

/-! ## Bare names -/

theorem continuesName_bounds {c : Char} (h : continuesName c = true) : c.toNat < 0x80 := by
  simp only [continuesName, Char.isAlphanum, Bool.or_eq_true, decide_eq_true_eq] at h
  rcases h with ((halpha | hdigit) | rfl) | rfl
  · have hletter := alpha_bounds halpha
    omega
  · have hbounds := digit_bounds hdigit
    omega
  · decide
  · decide

theorem Alphabet.carries_eq_true (alphabet : Alphabet) {c : Char} (h : continuesName c = true) :
    alphabet.carries c = true := by
  rw [Alphabet.carries, if_pos (continuesName_bounds h), h]

theorem Alphabet.starts_eq_true (alphabet : Alphabet) {c : Char} (h : startsName c = true) :
    alphabet.starts c = true := by
  have hbounds := startsName_bounds h
  rw [Alphabet.starts, if_pos (by omega), h]

theorem readLetter?_self {allowed : Char → Bool} {c : Char} (h : allowed c = true) (hc : c ≠ '\\')
    (rest : List Char) : readLetter? allowed (c :: rest) = some (c, rest) := by
  unfold readLetter?
  split
  · next heq => cases heq
  · next heq => cases heq; exact absurd rfl hc
  · next heq => cases heq; exact if_pos h

/-- The characters of a name are read up to a colon, which no name contains. -/
theorem readLetters?_append (alphabet : Alphabet) {cs : List Char}
    (h : cs.all continuesName = true) (rest : List Char) :
    readLetters? alphabet (cs ++ ':' :: rest) = some (cs, ':' :: rest) := by
  induction cs with
  | nil =>
      have hcolon : alphabet.carries ':' = false := by
        rw [Alphabet.carries, if_pos (by decide)]
        rfl
      rw [List.nil_append, readLetters?, if_neg (by simp [hcolon])]
  | cons c cs ih =>
      rw [List.all_cons, Bool.and_eq_true] at h
      have hcarries := alphabet.carries_eq_true h.1
      have hc : c ≠ '\\' := by
        rintro rfl
        exact absurd h.1 (by decide)
      rw [List.cons_append, readLetters?, if_pos (by simp [hcarries])]
      split
      · next hnone => rw [readLetter?_self hcarries hc] at hnone; cases hnone
      · next hsome =>
          rw [readLetter?_self hcarries hc, Option.some.injEq, Prod.mk.injEq] at hsome
          obtain ⟨rfl, rfl⟩ := hsome
          rw [ih h.2, Option.map_some]

theorem readName?_append (alphabet : Alphabet) {name : String}
    (h : Script.isBareName name.toList = true) (rest : List Char) :
    readName? alphabet (name.toList ++ ':' :: rest) = some (name, ':' :: rest) := by
  cases hname : name.toList with
  | nil => rw [hname] at h; cases h
  | cons c cs =>
      rw [hname, Script.isBareName, Bool.and_eq_true] at h
      have hstarts := alphabet.starts_eq_true h.1
      have hc : c ≠ '\\' := by
        rintro rfl
        exact absurd h.1 (by decide)
      have hmore := readLetters?_append alphabet h.2 rest
      simp only [readName?, List.cons_append, readLetter?_self hstarts hc, hmore,
        Option.bind_eq_bind, Option.bind_some]
      rw [← hname, String.ofList_toList]

theorem readPropertyName?_append (alphabet : Alphabet) (s : String) (rest : List Char) :
    readPropertyName? alphabet ((Script.propertyName s).toList ++ ':' :: rest)
      = some (some s, ':' :: rest) := by
  rw [Script.propertyName]
  split
  · next hbare =>
      have hname := readName?_append alphabet hbare rest
      cases hs : s.toList with
      | nil => rw [hs] at hbare; cases hbare
      | cons c cs =>
          rw [hs, Script.isBareName, Bool.and_eq_true] at hbare
          rw [hs] at hname
          rw [readPropertyName?, List.cons_append, List.head?_cons]
          split
          · next heq => cases heq; exact absurd hbare.1 (by decide)
          · next heq => cases heq; exact absurd hbare.1 (by decide)
          · rw [← List.cons_append, hname, Option.map_some]
  · have hquote := readString?_toList_quote s (':' :: rest)
    rw [readPropertyName?]
    simp only [toList_quote, List.cons_append, List.head?_cons] at hquote ⊢
    exact hquote

/-- A quoted text is read off any text that begins with it, and is read as the text
that was quoted; it stands on one line. A property name is read off likewise where a
colon follows it. -/
theorem read_literals :
    (∀ text rest : String,
      readString? '"' (Script.quote text ++ rest).toList = some (some text, rest.toList)
        ∧ '\n' ∉ (Script.quote text).toList ∧ '\r' ∉ (Script.quote text).toList)
      ∧ ∀ (alphabet : Alphabet) (key rest : String),
          readPropertyName? alphabet (Script.propertyName key ++ (":" ++ rest)).toList
            = some (some key, (":" ++ rest).toList) := by
  refine ⟨fun text rest => ⟨?_, ?_, ?_⟩, fun alphabet key rest => ?_⟩
  · rw [String.toList_append]
    exact readString?_toList_quote text rest.toList
  · exact Script.not_mem_quote (Or.inl rfl) text
  · exact Script.not_mem_quote (Or.inr rfl) text
  · have hcolon : (":" ++ rest).toList = ':' :: rest.toList := by simp
    rw [String.toList_append, hcolon]
    exact readPropertyName?_append alphabet key rest.toList

/-- The readers know what is never written, too: other escapes, line continuations. -/
example :
    readString? '"' "\"\\x41\\u0042\\u\x7b1F600\x7d\\uD83D\\uDE00\\\n\\0\": 1".toList
      = some (some "AB😀😀\x00", ": 1".toList) := by
  decide +kernel

end LoadScript.Ecma
