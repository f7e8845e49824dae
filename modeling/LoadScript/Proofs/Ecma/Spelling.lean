import LoadScript.Proofs.Ecma.Token
import LoadScript.Script.Object

/-!
# Texts that spell tokens

A piece of a script spells certain tokens wherever it stands. For most pieces
that is so whatever comes next (`Spells`). A piece that ends in a name or a
numeral needs a character after it that does not carry the name or the numeral
on (`Lexes`); in a script such a piece is followed by a blank, a line feed or
one of a few punctuators (`endings`).

Spellings are put together here: one after the other, between braces, and in
lists with separators. What a whole text spells, `tokens?` reads
(`Lexes.tokens?_eq`).
-/

namespace LoadScript.Ecma

abbrev State.start (braces : List Bool) : State := ⟨.between, braces⟩

/-- The text spells the tokens, whatever comes before and after it. -/
def Spells (text : String) (ts : List Token) : Prop :=
  ∀ braces, feed (.start braces) text.toList = some (.start braces, ts)

/-- The characters that end a name or a numeral in a script. -/
def endings : List Char := [' ', '\n', ',', ':', ';', ')', ']', '\x7d']

/-- The text spells the tokens, provided that an ending comes after it. -/
def Lexes (text : String) (ts : List Token) : Prop :=
  ∀ braces, ∀ c ∈ endings, ∀ rest,
    feed (.start braces) (text.toList ++ c :: rest)
      = precede ts (feed (.start braces) (c :: rest))

def BeginsWithEnding (text : String) : Prop :=
  ∃ c ∈ endings, ∃ rest, text.toList = c :: rest

theorem Spells.lexes {text : String} {ts : List Token} (h : Spells text ts) :
    Lexes text ts := by
  intro braces c _ rest
  exact feed_append (h braces) _

theorem Spells.empty : Spells "" [] := fun _ => rfl

/-- What a text spells outside of all braces it spells everywhere. -/
theorem Spells.of_feed {text : String} {ts : List Token}
    (h : feed (.start []) text.toList = some (.start [], ts)) : Spells text ts := by
  intro braces
  exact feed_above text.toList (.start []) _ _ h

theorem Spells.append {a b : String} {ts us : List Token} (ha : Spells a ts)
    (hb : Spells b us) : Spells (a ++ b) (ts ++ us) := by
  intro braces
  rw [String.toList_append, feed_append (ha braces), hb braces, precede_some]

theorem Spells.append_lexes {a b : String} {ts us : List Token} (ha : Spells a ts)
    (hb : Lexes b us) : Lexes (a ++ b) (ts ++ us) := by
  intro braces c hc rest
  rw [String.toList_append, List.append_assoc, feed_append (ha braces),
    hb braces c hc rest, precede_precede]

theorem Lexes.append_spells {a b : String} {ts us : List Token} (ha : Lexes a ts)
    (hstart : BeginsWithEnding b) (hb : Spells b us) : Spells (a ++ b) (ts ++ us) := by
  intro braces
  obtain ⟨c, hc, rest, hrest⟩ := hstart
  rw [String.toList_append, hrest, ha braces c hc rest, ← hrest, hb braces, precede_some]

theorem Lexes.append {a b : String} {ts us : List Token} (ha : Lexes a ts)
    (hstart : BeginsWithEnding b) (hb : Lexes b us) : Lexes (a ++ b) (ts ++ us) := by
  intro braces c hc rest
  obtain ⟨d, hd, more, hmore⟩ := hstart
  have h := hb braces c hc rest
  rw [String.toList_append, List.append_assoc, hmore, List.cons_append,
    ha braces d hd _, ← List.cons_append, ← hmore, h, precede_precede]

theorem BeginsWithEnding.append {a : String} (h : BeginsWithEnding a) (b : String) :
    BeginsWithEnding (a ++ b) := by
  obtain ⟨c, hc, rest, hrest⟩ := h
  exact ⟨c, hc, rest ++ b.toList, by rw [String.toList_append, hrest, List.cons_append]⟩

/-- What is spelled between braces. Inside, one more brace is open. -/
theorem Lexes.braced {inner : String} {ts : List Token} (h : Lexes inner ts) :
    Spells (Script.braced inner)
      (.punctuator "\x7b" :: ts ++ [.punctuator "\x7d"]) := by
  intro braces
  have hopen : step? (.start braces) '\x7b'
      = some (.start (false :: braces), [.punctuator "\x7b"]) := rfl
  have hclose : feed (.start (false :: braces)) ['\x7d']
      = some (.start braces, [.punctuator "\x7d"]) := rfl
  have htext : (Script.braced inner).toList = '\x7b' :: (inner.toList ++ ['\x7d']) := by
    simp [Script.braced]
  rw [htext, feed_cons hopen, h _ '\x7d' (by decide) [], hclose, precede_some,
    precede_some]
  rfl

/-- Texts in a row, with a separator between each two of them. -/
theorem Lexes.intercalate {α : Type} {sep : String} {mark : Token} (hsep : Spells sep [mark])
    (hstart : BeginsWithEnding sep) {f : α → String} {g : α → List Token} {xs : List α}
    (h : ∀ x ∈ xs, Lexes (f x) (g x)) :
    Lexes (sep.intercalate (xs.map f)) ([mark].intercalate (xs.map g)) := by
  induction xs with
  | nil => exact Spells.empty.lexes
  | cons x rest ih =>
      have hx : Lexes (f x) (g x) := h x (by simp)
      have hrest := ih fun y hy => h y (by simp [hy])
      cases rest with
      | nil => simpa using hx
      | cons y more =>
          simp only [List.map_cons, String.intercalate_cons_cons,
            List.intercalate_cons_cons] at hrest ⊢
          rw [String.append_assoc, List.append_assoc]
          exact hx.append (hstart.append _) (hsep.append_lexes hrest)

/-- What a whole text spells is what is read from it. -/
theorem Lexes.tokens?_eq {text : String} {ts : List Token} (h : Lexes text ts) :
    tokens? text = some ts := by
  have hend : feed (.start []) ['\n'] = some (.start [], []) := rfl
  rw [tokens?, h [] '\n' (by decide) [], hend, precede_some, List.append_nil]

/-! ## Blocks

A text that opens a block, what stands in the block, and a text that closes it
spell tokens together. -/

/-- The text spells the tokens and leaves a brace open. -/
def Opens (text : String) (ts : List Token) : Prop :=
  ∀ braces, feed (.start braces) text.toList = some (.start (false :: braces), ts)

/-- The text spells the tokens and closes a brace. -/
def Closes (text : String) (ts : List Token) : Prop :=
  ∀ braces, feed (.start (false :: braces)) text.toList = some (.start braces, ts)

theorem Opens.of_feed {text : String} {ts : List Token}
    (h : feed (.start []) text.toList = some (.start [false], ts)) : Opens text ts := by
  intro braces
  exact feed_above text.toList (.start []) _ _ h

theorem Closes.of_feed {text : String} {ts : List Token}
    (h : feed (.start [false]) text.toList = some (.start [], ts)) : Closes text ts := by
  intro braces
  exact feed_above text.toList (.start [false]) _ _ h

theorem Opens.spells {a b c : String} {ts us vs : List Token} (ha : Opens a ts)
    (hb : Spells b us) (hc : Closes c vs) : Spells (a ++ b ++ c) (ts ++ us ++ vs) := by
  intro braces
  rw [String.toList_append, String.toList_append, List.append_assoc, feed_append (ha braces),
    feed_append (hb _), hc braces, precede_some, precede_some, List.append_assoc]

/-! ## Names -/

/-- Visible ASCII characters are no space. -/
theorem isSpace_eq_false {c : Char} (h : 0x20 < c.toNat) (h' : c.toNat < 0x7F) :
    isSpace c = false := by
  have hblank : Text.isBlank c = false := by
    rw [Bool.eq_false_iff]
    intro hc
    obtain ⟨range, hmem, hrange⟩ := Text.inRanges_iff.1 hc
    have hfar : ∀ range ∈ Text.blankRanges, range.2 ≤ 0x20 ∨ 0x7F ≤ range.1 := by decide
    have := hfar range hmem
    omega
  have hmark : c ≠ '\uFEFF' := by
    rintro rfl
    exact absurd h' (by decide)
  simp [isSpace, hblank, hmark]

theorem alpha_bounds {c : Char} (h : c.isAlpha = true) :
    65 ≤ c.toNat ∧ c.toNat ≤ 90 ∨ 97 ≤ c.toNat ∧ c.toNat ≤ 122 := by
  change (decide (c.val ≥ 65 ∧ c.val ≤ 90) || decide (c.val ≥ 97) && decide (c.val ≤ 122)) = true
    at h
  simp only [Bool.or_eq_true, Bool.and_eq_true, decide_eq_true_eq, ge_iff_le,
    UInt32.le_iff_toNat_le] at h
  exact h

theorem startsName_bounds {c : Char} (h : startsName c = true) :
    0x20 < c.toNat ∧ c.toNat < 0x7F := by
  simp only [startsName, Bool.or_eq_true, decide_eq_true_eq] at h
  rcases h with (h | rfl) | rfl
  · have hletter := alpha_bounds h
    omega
  · decide
  · decide

/-- A character that starts a name starts nothing else. -/
theorem begin?_startsName {c : Char} (h : startsName c = true) (braces : List Bool) :
    begin? braces c = some (⟨.name [c], braces⟩, []) := by
  have hbounds := startsName_bounds h
  have hspace := isSpace_eq_false hbounds.1 hbounds.2
  have hne : ∀ d, startsName d = false → c ≠ d := by
    rintro d hd rfl
    rw [h] at hd
    exact Bool.noConfusion hd
  simp [begin?, hspace, h, hne '/' rfl, hne '"' rfl, hne '\x60' rfl, hne '\x7b' rfl,
    hne '\x7d' rfl]

theorem feed_name {cs : List Char} (h : cs.all continuesName = true) (read : List Char)
    (braces : List Bool) :
    feed ⟨.name read, braces⟩ cs = some (⟨.name (read ++ cs), braces⟩, []) := by
  induction cs generalizing read with
  | nil => rw [feed, List.append_nil]
  | cons c cs ih =>
      rw [List.all_cons, Bool.and_eq_true] at h
      have hstep : step? ⟨.name read, braces⟩ c
          = some (⟨.name (read ++ [c]), braces⟩, []) := if_pos h.1
      rw [feed_cons hstep, precede_nil, ih h.2, List.append_assoc, List.singleton_append]

/-- A token is complete when the next character is taken as it is between
tokens. -/
theorem feed_complete {s : State} {braces : List Bool} {c : Char} {ts : List Token}
    (h : step? s c = precede ts (step? (.start braces) c)) (rest : List Char) :
    feed s (c :: rest) = precede ts (feed (.start braces) (c :: rest)) := by
  rw [feed, feed, h]
  cases step? (.start braces) c with
  | none => rfl
  | some p =>
      obtain ⟨next, us⟩ := p
      simp

theorem continues_ending {d : Char} (h : d ∈ endings) :
    continuesName d = false ∧ ∀ read, continuesNumeral read d = false := by
  simp only [endings, List.mem_cons, List.not_mem_nil, or_false] at h
  rcases h with rfl | rfl | rfl | rfl | rfl | rfl | rfl | rfl <;> exact ⟨rfl, fun _ => rfl⟩

theorem lexes_name {name : String} {c : Char} {cs : List Char} (hname : name.toList = c :: cs)
    (hc : startsName c = true) (hcs : cs.all continuesName = true) :
    Lexes name [.name name] := by
  intro braces d hd rest
  have hstep : step? (.start braces) c = some (⟨.name [c], braces⟩, []) :=
    begin?_startsName hc braces
  have hend : step? ⟨.name name.toList, braces⟩ d
      = precede [.name name] (step? (.start braces) d) := by
    simp [step?, (continues_ending hd).1]
  rw [hname, List.cons_append, feed_cons hstep, precede_nil,
    feed_append (feed_name hcs [c] braces), precede_nil, List.singleton_append, ← hname,
    feed_complete hend]

/-! ## String literals

Two ways to escape are used in a script, one for texts and one inside nested
JSON values. Either way a character's escape denotes the character. -/

/-- Read inside a string literal, the escape of every character denotes it. -/
def Denotes (escape : Char → List Char) : Prop :=
  ∀ c read braces, feed ⟨.inside .string read, braces⟩ (escape c)
    = some (⟨.inside .string (read ++ [c]), braces⟩, [])

theorem Denotes.feed_flatMap {escape : Char → List Char} (h : Denotes escape)
    (cs read : List Char) (braces : List Bool) :
    feed ⟨.inside .string read, braces⟩ (cs.flatMap escape)
      = some (⟨.inside .string (read ++ cs), braces⟩, []) := by
  induction cs generalizing read with
  | nil => rw [List.flatMap_nil, feed, List.append_nil]
  | cons c cs ih =>
      rw [List.flatMap_cons, feed_append (h c read braces), precede_nil, ih,
        List.append_assoc, List.singleton_append]

/-- Between double quotes, escaped characters spell the text that they denote. -/
theorem Denotes.spells {escape : Char → List Char} (h : Denotes escape) (s : String) :
    Spells ("\"" ++ String.ofList (s.toList.flatMap escape) ++ "\"") [.string s] := by
  intro braces
  have hopen : step? (.start braces) '"' = some (⟨.inside .string [], braces⟩, []) := rfl
  have hclose : feed ⟨.inside .string s.toList, braces⟩ ['"']
      = some (.start braces, [.string s]) := by
    simp [feed, step?, inside?]
  have htext : ("\"" ++ String.ofList (s.toList.flatMap escape) ++ "\"").toList
      = '"' :: (s.toList.flatMap escape ++ ['"']) := by
    simp
  rw [htext, feed_cons hopen, precede_nil, feed_append (h.feed_flatMap s.toList [] braces),
    precede_nil, List.nil_append, hclose]

end LoadScript.Ecma
