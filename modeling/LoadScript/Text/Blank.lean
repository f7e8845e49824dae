import LoadScript.Text.Ranges

/-!
# White space of the Unicode standard

The characters with the property White_Space, and trimming by them. This is a wider class than the
blanks of a JSON text and wider than `Char.isWhitespace` (`isBlank_of_isWhitespace`): it has the
no-break space and the line and paragraph separators, but neither the zero-width space nor the byte
order mark.
-/

namespace LoadScript.Text

/-- The ranges of White_Space, first and last code point of each. -/
def blankRanges : List (Nat × Nat) :=
  [(0x09, 0x0D), (0x20, 0x20), (0x85, 0x85), (0xA0, 0xA0), (0x1680, 0x1680), (0x2000, 0x200A),
   (0x2028, 0x2029), (0x202F, 0x202F), (0x205F, 0x205F), (0x3000, 0x3000)]

def isBlank (c : Char) : Bool := inRanges blankRanges c

theorem isBlank_of_isWhitespace {c : Char} (h : c.isWhitespace = true) : isBlank c = true := by
  simp only [Char.isWhitespace, Bool.or_eq_true, decide_eq_true_eq] at h
  rcases h with ((rfl | rfl) | rfl) | rfl <;> rfl

def trimChars (cs : List Char) : List Char :=
  ((cs.dropWhile isBlank).reverse.dropWhile isBlank).reverse

def trim (s : String) : String := String.ofList (trimChars s.toList)

/-- Whether a text is empty or white space only, so that trimming leaves nothing. -/
def isBlankText (s : String) : Bool := s.toList.all isBlank

private theorem dropWhile_isBlank_eq_nil_iff {cs : List Char} :
    cs.dropWhile isBlank = [] ↔ cs.all isBlank = true := by
  induction cs with
  | nil => simp
  | cons c rest ih => by_cases h : isBlank c = true <;> simp [h, ih]

theorem trimChars_eq_nil_iff {cs : List Char} : trimChars cs = [] ↔ cs.all isBlank = true := by
  rw [trimChars, List.reverse_eq_nil_iff, dropWhile_isBlank_eq_nil_iff, List.all_reverse]
  induction cs with
  | nil => rfl
  | cons c rest ih =>
    by_cases h : isBlank c = true
    · simpa [h] using ih
    · simp [h]

/-- The text in ASCII capitals; other letters stay. -/
def upperAscii (s : String) : String := String.ofList (s.toList.map Char.toUpper)

/-- The text in ASCII small letters; other letters stay. -/
def lowerAscii (s : String) : String := String.ofList (s.toList.map Char.toLower)

def firstLine (s : String) : String := String.ofList (s.toList.takeWhile (· != '\n'))

end LoadScript.Text
