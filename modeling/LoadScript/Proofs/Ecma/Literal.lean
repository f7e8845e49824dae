import LoadScript.Json.Value
import LoadScript.Proofs.Ecma.Expr
import LoadScript.Proofs.Ecma.Spelling
import LoadScript.Proofs.Number.Numeral
import LoadScript.Script.Object

/-!
# The literals of a script, read as source text

Quoted texts, quoted JSON strings, numerals and property names spell one token
each, and that token denotes what they were made from. A piece of a template literal
is not a token but part of one, so what is said of it is how reading goes on
(`feed_templateChars`). The dollar at the end of a piece is the delicate point:
whether it opens a substitution depends on the character after the piece, and
it does not, unless that character is a brace.
-/

namespace LoadScript.Ecma

open Script

/-! ## String literals -/

theorem denotes_self {c : Char} (h : c ≠ '\\') (hq : c ≠ '"') (hn : c ≠ '\n') (hr : c ≠ '\r')
    (read : List Char) (braces : List Bool) :
    feed ⟨.inside .string read, braces⟩ [c]
      = some (⟨.inside .string (read ++ [c]), braces⟩, []) := by
  simp [feed, step?, inside?, h, hq, hn, hr]

theorem denotes_quotedChar : Denotes quotedChar := by
  intro c read braces
  unfold quotedChar
  split
  · rfl
  · rfl
  · rfl
  · rfl
  · next h1 h2 h3 h4 => exact denotes_self h1 h2 h3 h4 read braces

theorem spells_quote (s : String) : Spells (Script.quote s) [.string s] :=
  denotes_quotedChar.spells s

/-- The escape of a control character is read as the character. -/
theorem ofLetters_hexByte : ∀ n < 32,
    Escape.ofLetters ('u' :: '0' :: '0' :: Json.Value.hexByte n) = .char (Char.ofNat n) := by
  decide

theorem denotes_escapeChar : Denotes Json.Value.escapeChar := by
  intro c read braces
  unfold Json.Value.escapeChar
  split
  · rfl
  · rfl
  · rfl
  · rfl
  · rfl
  · rfl
  · rfl
  · next h1 h2 _ _ h5 h6 _ =>
      split
      · next hc =>
          have hn : c.toNat < 32 := hc
          have hletters := ofLetters_hexByte c.toNat hn
          rw [Char.ofNat_toNat, Json.Value.hexByte] at hletters
          rw [Json.Value.hexByte, feed_cons rfl, feed_cons rfl, feed_cons rfl, feed_cons rfl]
          have hfirst : Escape.ofLetters ['u', '0', '0', Nat.digitChar (c.toNat / 16)]
              = .unfinished := rfl
          simp [feed, step?, hletters, hfirst]
      · exact denotes_self h2 h1 h5 h6 read braces

theorem spells_quoted (s : String) : Spells (Json.Value.quoted s) [.string s] :=
  denotes_escapeChar.spells s

/-! ## Numerals -/

theorem digit_bounds {c : Char} (h : c.isDigit = true) : 48 ≤ c.toNat ∧ c.toNat ≤ 57 := by
  simp only [Char.isDigit, Bool.and_eq_true, decide_eq_true_eq, UInt32.le_iff_toNat_le,
    ge_iff_le] at h
  exact h

theorem startsName_digit {c : Char} (h : c.isDigit = true) : startsName c = false := by
  have hc := digit_bounds h
  rw [Bool.eq_false_iff]
  intro hstart
  simp only [startsName, Bool.or_eq_true, decide_eq_true_eq] at hstart
  rcases hstart with (halpha | rfl) | rfl
  · have hletter := alpha_bounds halpha
    omega
  · exact absurd h (by decide)
  · exact absurd h (by decide)

theorem begin?_digit {c : Char} (h : c.isDigit = true) (braces : List Bool) :
    begin? braces c = some (⟨.numeral [c], braces⟩, []) := by
  have hc := digit_bounds h
  have hspace := isSpace_eq_false (c := c) (by omega) (by omega)
  have hne : ∀ d : Char, d.isDigit = false → c ≠ d := by
    rintro d hd rfl
    rw [h] at hd
    exact Bool.noConfusion hd
  simp [begin?, hspace, h, startsName_digit h, hne '/' rfl, hne '"' rfl, hne '\x60' rfl,
    hne '\x7b' rfl, hne '\x7d' rfl]

/-- Characters that carry a numeral on, whatever stands before them. -/
theorem feed_numeral {cs : List Char} (h : ∀ c ∈ cs, (continuesName c || c = '.') = true)
    (read : List Char) (braces : List Bool) :
    feed ⟨.numeral read, braces⟩ cs = some (⟨.numeral (read ++ cs), braces⟩, []) := by
  induction cs generalizing read with
  | nil => rw [feed, List.append_nil]
  | cons c cs ih =>
      have hc : continuesNumeral read c = true := by
        rw [continuesNumeral, h c (by simp), Bool.true_or]
      have hstep : step? ⟨.numeral read, braces⟩ c
          = some (⟨.numeral (read ++ [c]), braces⟩, []) := if_pos hc
      rw [feed_cons hstep, precede_nil, ih fun d hd => h d (by simp [hd]), List.append_assoc,
        List.singleton_append]

theorem continues_digits {digits : List Char} (h : Json.IsDigits digits) :
    ∀ c ∈ digits, (continuesName c || c = '.') = true := by
  intro c hc
  have hdigit := h.2 c hc
  simp [continuesName, Char.isAlphanum, hdigit]

/-- The sign of an exponent carries the numeral on, since it stands behind the
letter. -/
theorem feed_exponent {e : Json.Numeral.Exponent} (h : e.WellFormed) (read : List Char)
    (braces : List Bool) :
    feed ⟨.numeral read, braces⟩ e.chars = some (⟨.numeral (read ++ e.chars), braces⟩, []) := by
  obtain ⟨mark, sign, digits⟩ := e
  have hdigits := continues_digits h.digits
  have hmark : continuesName mark = true := by rcases h.mark with rfl | rfl <;> rfl
  have hletter : mark = 'e' ∨ mark = 'E' := h.mark
  have hplain : ∀ c ∈ [mark], (continuesName c || c = '.') = true := by
    intro c hc
    rw [List.mem_singleton.1 hc, hmark, Bool.true_or]
  have hfront := feed_numeral hplain read braces
  cases sign with
  | none =>
      have hchars : (⟨mark, none, digits⟩ : Json.Numeral.Exponent).chars = [mark] ++ digits := rfl
      rw [hchars, feed_append hfront, precede_nil, feed_numeral hdigits, List.append_assoc]
  | some c =>
      have hsign : c = '+' ∨ c = '-' := h.sign c rfl
      have hcontinues : continuesNumeral (read ++ [mark]) c = true := by
        rw [continuesNumeral, List.getLast?_concat]
        rcases hsign with rfl | rfl
        · simpa using Or.inr hletter
        · simpa using Or.inr hletter
      have hstep : step? ⟨.numeral (read ++ [mark]), braces⟩ c
          = some (⟨.numeral (read ++ [mark] ++ [c]), braces⟩, []) := if_pos hcontinues
      have hchars : (⟨mark, some c, digits⟩ : Json.Numeral.Exponent).chars
          = [mark] ++ c :: digits := rfl
      rw [hchars, feed_append hfront, precede_nil, feed_cons hstep, precede_nil,
        feed_numeral hdigits]
      simp

/-- What stands behind the sign of a numeral carries the numeral on. -/
theorem feed_unsigned {n : Json.Numeral} (h : n.WellFormed) (read : List Char)
    (braces : List Bool) :
    feed ⟨.numeral read, braces⟩
        (Json.Numeral.fractionChars n.fraction ++ Json.Numeral.exponentChars n.exponent)
      = some (⟨.numeral (read ++ (Json.Numeral.fractionChars n.fraction
          ++ Json.Numeral.exponentChars n.exponent)), braces⟩, []) := by
  have hfraction : ∀ c ∈ Json.Numeral.fractionChars n.fraction,
      (continuesName c || c = '.') = true := by
    cases hf : n.fraction with
    | none => simp [Json.Numeral.fractionChars]
    | some digits =>
        intro c hc
        rcases List.mem_cons.1 hc with rfl | hc
        · rfl
        · exact continues_digits (h.fraction digits hf) c hc
  rw [feed_append (feed_numeral hfraction read braces), precede_nil]
  cases hexp : n.exponent with
  | none => rw [Json.Numeral.exponentChars, feed]; simp
  | some e =>
      rw [Json.Numeral.exponentChars, feed_exponent (h.exponent e hexp), List.append_assoc]

theorem lexes_numeral {n : Json.Numeral} (h : n.WellFormed) :
    Lexes (String.ofList n.chars) [.numeral n] := by
  intro braces d hd rest
  have hread : feed (.start braces) n.chars = some (⟨.numeral n.chars, braces⟩, []) := by
    obtain ⟨c, cs, hwhole⟩ := List.exists_cons_of_ne_nil h.whole.1
    have hc : c.isDigit = true := h.whole.2 c (by rw [hwhole]; simp)
    rw [Json.Numeral.chars_eq]
    cases hneg : n.negative with
    | true =>
        have hminus : step? (.start braces) '-' = some (⟨.numeral ['-'], braces⟩, []) := rfl
        rw [if_pos rfl, List.singleton_append, feed_cons hminus, precede_nil,
          feed_append (feed_numeral (continues_digits h.whole) _ braces), precede_nil,
          feed_unsigned h]
        simp
    | false =>
        have hfirst : step? (.start braces) c = some (⟨.numeral [c], braces⟩, []) :=
          begin?_digit hc braces
        have hcs : ∀ d ∈ cs, (continuesName d || d = '.') = true := fun d hd =>
          continues_digits h.whole d (by rw [hwhole]; simp [hd])
        rw [if_neg Bool.false_ne_true, List.nil_append, hwhole, List.cons_append,
          feed_cons hfirst, precede_nil, feed_append (feed_numeral hcs _ braces), precede_nil,
          feed_unsigned h]
        simp
  have hend : step? ⟨.numeral n.chars, braces⟩ d
      = precede [.numeral n] (step? (.start braces) d) := by
    simp [step?, (continues_ending hd).2, Json.Numeral.scanNumeral?_chars h]
  rw [String.toList_ofList, feed_append hread, precede_nil, feed_complete hend]

/-! ## Property names -/

def keyOf (s : String) : Key := if isBareName s.toList then .bare s else .quoted s

@[simp] theorem keyOf_text (s : String) : (keyOf s).text = s := by
  unfold keyOf
  split <;> rfl

theorem lexes_bareName {name : String} (h : isBareName name.toList = true) :
    Lexes name [.name name] := by
  cases hs : name.toList with
  | nil => rw [hs] at h; exact Bool.noConfusion h
  | cons c cs =>
      rw [hs, isBareName, Bool.and_eq_true] at h
      exact lexes_name hs h.1 h.2

theorem lexes_propertyName (s : String) : Lexes (propertyName s) [(keyOf s).token] := by
  unfold propertyName keyOf
  split
  · next h => exact lexes_bareName h
  · exact (spells_quote s).lexes

/-! ## Template literals -/

/-- After a dollar that opens no substitution, reading goes on as if the dollar
had been any character. -/
theorem feed_dollar {c : Char} (h : c ≠ '\x7b') (first : Bool) (read : List Char)
    (braces : List Bool) (rest : List Char) :
    feed ⟨.dollar first read, braces⟩ (c :: rest)
      = feed ⟨.inside (.chunk first) (read ++ ['$']), braces⟩ (c :: rest) :=
  feed_congr (by simp [step?, h]) rest

def templateChar (c : Char) : List Char :=
  match c with
  | '\\' => ['\\', '\\']
  | '\x60' => ['\\', '\x60']
  | '\n' => ['\\', 'n']
  | '\r' => ['\\', 'r']
  | c => [c]

theorem templateChars_open (cs : List Char) :
    templateChars ('$' :: '\x7b' :: cs) = ['\\', '$', '\x7b'] ++ templateChars cs := by
  rw [templateChars]
  rfl

theorem templateChars_cons {c : Char} {cs : List Char}
    (h : ∀ rest, c = '$' → cs = '\x7b' :: rest → False) :
    templateChars (c :: cs) = templateChar c ++ templateChars cs := by
  rw [templateChars.eq_def]
  split
  · next heq => cases heq
  · next heq =>
      cases heq
      exact absurd rfl (h _ rfl)
  · next heq =>
      cases heq
      rfl

theorem feed_chunk_self {c : Char} (h : c ≠ '\\') (hq : c ≠ '\x60') (hd : c ≠ '$')
    (hr : c ≠ '\r') (first : Bool) (read : List Char) (braces : List Bool) :
    feed ⟨.inside (.chunk first) read, braces⟩ [c]
      = some (⟨.inside (.chunk first) (read ++ [c]), braces⟩, []) := by
  simp [feed, step?, inside?, h, hq, hd, hr]

theorem feed_templateChar {c : Char} (h : c ≠ '$') (first : Bool) (read : List Char)
    (braces : List Bool) :
    feed ⟨.inside (.chunk first) read, braces⟩ (templateChar c)
      = some (⟨.inside (.chunk first) (read ++ [c]), braces⟩, []) := by
  unfold templateChar
  split
  · rfl
  · rfl
  · rfl
  · rfl
  · next h1 h2 _ h4 => exact feed_chunk_self h1 h2 h h4 first read braces

/-- The first character of a piece and what comes after it is a brace only if
the text begins with one. -/
theorem templateChars_head {cs : List Char} (h : ∀ rest, cs ≠ '\x7b' :: rest) {c : Char}
    (hc : c ≠ '\x7b') (rest : List Char) :
    ∃ d more, templateChars cs ++ c :: rest = d :: more ∧ d ≠ '\x7b' := by
  cases cs with
  | nil => exact ⟨c, rest, rfl, hc⟩
  | cons d cs =>
      have hd : d ≠ '\x7b' := fun e => h cs (by rw [e])
      by_cases hopen : ∃ more, d = '$' ∧ cs = '\x7b' :: more
      · obtain ⟨more, rfl, rfl⟩ := hopen
        rw [templateChars]
        exact ⟨'\\', _, rfl, by decide⟩
      · have hcons : templateChars (d :: cs) = templateChar d ++ templateChars cs :=
          templateChars_cons fun more h1 h2 => hopen ⟨more, h1, h2⟩
        rw [hcons]
        unfold templateChar
        split
        · exact ⟨'\\', _, rfl, by decide⟩
        · exact ⟨'\\', _, rfl, by decide⟩
        · exact ⟨'\\', _, rfl, by decide⟩
        · exact ⟨'\\', _, rfl, by decide⟩
        · exact ⟨d, _, rfl, hd⟩

/-- A piece of a template literal denotes the text it was made from, and leaves
the literal unfinished, before any character but a brace. -/
theorem feed_templateChars {c : Char} (hc : c ≠ '\x7b') (rest : List Char) (first : Bool)
    (braces : List Bool) (cs read : List Char) :
    feed ⟨.inside (.chunk first) read, braces⟩ (templateChars cs ++ c :: rest)
      = feed ⟨.inside (.chunk first) (read ++ cs), braces⟩ (c :: rest) := by
  induction cs using templateChars.induct generalizing read with
  | case1 => rw [templateChars, List.append_nil, List.nil_append]
  | case2 cs ih =>
      have hescaped : feed ⟨.inside (.chunk first) read, braces⟩ ['\\', '$', '\x7b']
          = some (⟨.inside (.chunk first) (read ++ ['$'] ++ ['\x7b']), braces⟩, []) := by
        rfl
      rw [templateChars_open, List.append_assoc, feed_append hescaped, precede_nil, ih]
      simp
  | case3 d cs hd ih =>
      rw [templateChars_cons hd, List.append_assoc]
      by_cases hdollar : d = '$'
      · subst hdollar
        obtain ⟨e, more, he, hbrace⟩ := templateChars_head (hd · rfl) hc rest
        have hstep : step? ⟨.inside (.chunk first) read, braces⟩ '$'
            = some (⟨.dollar first read, braces⟩, []) := rfl
        have hself : templateChar '$' = ['$'] := rfl
        rw [hself, List.singleton_append, feed_cons hstep, precede_nil, he,
          feed_dollar hbrace, ← he, ih, List.append_assoc, List.singleton_append]
      · rw [feed_append (feed_templateChar hdollar first read braces), precede_nil, ih,
          List.append_assoc, List.singleton_append]

end LoadScript.Ecma
