import LoadScript.Json.Token
import LoadScript.Text.Blank

/-!
# Tokens of ECMAScript source text

What a script says is said in tokens, so the theorems about scripts need a
reader of tokens that knows nothing of how scripts are written. This is the
lexical grammar of ECMAScript 2019, as a machine that takes one character at
a time: `step?` says what a character does, `feed` what a text does.

Two things make the machine convenient. It keeps a stack of the open braces,
because only the stack tells whether a closing brace ends a block or goes back
into a template literal. And a text fed in two halves is a text fed at once
(`feed_append`), which is why every lemma about a piece of a script can be
stated for the piece alone. Braces that are open around a piece do not matter
to it (`feed_above`).

The grammar is read strictly and not in full: block comments, regular
expressions and division, hexadecimal numerals, octal escapes, escapes in
braces, escaped surrogates and names beyond ASCII are refused, never misread.
A sign directly before a numeral belongs to it.
-/

namespace LoadScript.Ecma

inductive Token where
  | name (text : String)
  | punctuator (text : String)
  | numeral (value : Json.Numeral)
  /-- A string literal, by the text it denotes. -/
  | string (value : String)
  /-- A chunk of a template literal, by the text it denotes; whether it is the
  first chunk and whether it is the last. -/
  | chunk (first last : Bool) (value : String)
  deriving DecidableEq, Repr

inductive Literal where
  | string
  | chunk (first : Bool)
  deriving DecidableEq, Repr

/-- Where the machine stands between two characters. The characters that the
unfinished token has so far are kept as they were read. -/
inductive Mode where
  | between
  | slash
  | comment
  | name (read : List Char)
  | numeral (read : List Char)
  | operator (read : List Char)
  | inside (literal : Literal) (read : List Char)
  /-- In a chunk after a dollar, which may open a substitution. -/
  | dollar (first : Bool) (read : List Char)
  /-- In a literal after a backslash and some letters of its escape. -/
  | escape (literal : Literal) (read letters : List Char)
  deriving DecidableEq, Repr

structure State where
  mode : Mode
  /-- The open braces, innermost first; true for one that opened a substitution. -/
  braces : List Bool
  deriving DecidableEq, Repr

/-- What one character or more come to: the state after them and the tokens
that they completed. None where the text is refused. -/
abbrev Fed := Option (State × List Token)

def isSpace (c : Char) : Bool := c != '\x85' && (Text.isBlank c || c = '\uFEFF')

def endsLine (c : Char) : Bool := c = '\n' || c = '\r' || c = '\u2028' || c = '\u2029'

def startsName (c : Char) : Bool := c.isAlpha || c = '_' || c = '$'

def continuesName (c : Char) : Bool := c.isAlphanum || c = '_' || c = '$'

/-- Whether a character belongs to the numeral before it. A sign does after the
letter of an exponent. -/
def continuesNumeral (read : List Char) (c : Char) : Bool :=
  continuesName c || c = '.' ||
    ((c = '+' || c = '-') && (read.getLast? = some 'e' || read.getLast? = some 'E'))

/-- The punctuators that no other begins with, braces apart. -/
def marks : List Char := ['(', ')', '[', ']', ';', ',', ':', '?', '~']

/-- The other punctuators, without divisions and those with a minus sign. -/
def operators : List String :=
  [".", "...", "<", ">", "<=", ">=", "==", "!=", "===", "!==", "+", "*", "%", "**", "++",
   "<<", ">>", ">>>", "&", "|", "^", "!", "&&", "||", "=", "+=", "*=", "%=", "**=", "<<=",
   ">>=", ">>>=", "&=", "|=", "^=", "=>"]

def beginsOperator (cs : List Char) : Bool :=
  operators.any fun p => cs.isPrefixOf p.toList

inductive Escape where
  | char (c : Char)
  | unfinished
  | invalid
  deriving DecidableEq

def Escape.ofUnit? : Option Nat → Escape
  | none => .invalid
  | some unit =>
    if Json.isHighSurrogate unit || Json.isLowSurrogate unit then .invalid
    else .char (Char.ofNat unit)

def Escape.ofLetter (c : Char) : Escape :=
  match c with
  | 'x' | 'u' => .unfinished
  | 'b' => .char '\x08'
  | 't' => .char '\t'
  | 'n' => .char '\n'
  | 'v' => .char '\x0B'
  | 'f' => .char '\x0C'
  | 'r' => .char '\r'
  | c => if c.isDigit || endsLine c then .invalid else .char c

def Escape.ofLetters : List Char → Escape
  | [] => .unfinished
  | [c] => ofLetter c
  | ['x', a, b] => ofUnit? (Json.hexUnit? '0' '0' a b)
  | ['u', a, b, c, d] => ofUnit? (Json.hexUnit? a b c d)
  | ['x', _] | ['u', _] | ['u', _, _] | ['u', _, _, _] => .unfinished
  | _ => .invalid

def precede (ts : List Token) (fed : Fed) : Fed :=
  fed.map fun (state, later) => (state, ts ++ later)

def begin? (braces : List Bool) (c : Char) : Fed :=
  if isSpace c then some (⟨.between, braces⟩, [])
  else if c = '/' then some (⟨.slash, braces⟩, [])
  else if c = '"' then some (⟨.inside .string [], braces⟩, [])
  else if c = '\x60' then some (⟨.inside (.chunk true) [], braces⟩, [])
  else if c = '\x7b' then some (⟨.between, false :: braces⟩, [.punctuator "\x7b"])
  else if c = '\x7d' then
    match braces with
    | [] => none
    | false :: outer => some (⟨.between, outer⟩, [.punctuator "\x7d"])
    | true :: outer => some (⟨.inside (.chunk false) [], outer⟩, [])
  else if startsName c then some (⟨.name [c], braces⟩, [])
  else if c.isDigit || c = '-' then some (⟨.numeral [c], braces⟩, [])
  else if marks.contains c then
    some (⟨.between, braces⟩, [.punctuator (String.singleton c)])
  else if beginsOperator [c] then some (⟨.operator [c], braces⟩, [])
  else none

def inside? (literal : Literal) (read : List Char) (braces : List Bool) (c : Char) : Fed :=
  if c = '\\' then some (⟨.escape literal read [], braces⟩, []) else
  match literal with
  | .string =>
    if c = '"' then some (⟨.between, braces⟩, [.string (String.ofList read)])
    else if c = '\n' || c = '\r' then none
    else some (⟨.inside .string (read ++ [c]), braces⟩, [])
  | .chunk first =>
    if c = '\x60' then some (⟨.between, braces⟩, [.chunk first true (String.ofList read)])
    else if c = '$' then some (⟨.dollar first read, braces⟩, [])
    else if c = '\r' then none
    else some (⟨.inside (.chunk first) (read ++ [c]), braces⟩, [])

def step? (state : State) (c : Char) : Fed :=
  match state.mode with
  | .between => begin? state.braces c
  | .slash => if c = '/' then some (⟨.comment, state.braces⟩, []) else none
  | .comment => some (⟨if endsLine c then .between else .comment, state.braces⟩, [])
  | .name read =>
    if continuesName c then some (⟨.name (read ++ [c]), state.braces⟩, [])
    else precede [.name (String.ofList read)] (begin? state.braces c)
  | .numeral read =>
    if continuesNumeral read c then some (⟨.numeral (read ++ [c]), state.braces⟩, [])
    else match Json.scanNumeral? read with
      | some (value, []) => precede [.numeral value] (begin? state.braces c)
      | _ => none
  | .operator read =>
    if beginsOperator (read ++ [c]) then some (⟨.operator (read ++ [c]), state.braces⟩, [])
    else if operators.contains (String.ofList read) then
      precede [.punctuator (String.ofList read)] (begin? state.braces c)
    else none
  | .inside literal read => inside? literal read state.braces c
  | .dollar first read =>
    if c = '\x7b' then
      some (⟨.between, true :: state.braces⟩, [.chunk first false (String.ofList read)])
    else inside? (.chunk first) (read ++ ['$']) state.braces c
  | .escape literal read letters =>
    match Escape.ofLetters (letters ++ [c]) with
    | .char denoted => some (⟨.inside literal (read ++ [denoted]), state.braces⟩, [])
    | .unfinished => some (⟨.escape literal read (letters ++ [c]), state.braces⟩, [])
    | .invalid => none

def feed (state : State) : List Char → Fed
  | [] => some (state, [])
  | c :: cs =>
    match step? state c with
    | none => none
    | some (next, ts) => precede ts (feed next cs)

/-- The tokens of a text. The end of the text ends its last token as a line
break would. -/
def tokens? (text : String) : Option (List Token) :=
  match feed ⟨.between, []⟩ (text.toList ++ ['\n']) with
  | some (⟨.between, []⟩, ts) => some ts
  | _ => none

/-! ## Texts in pieces -/

@[simp] theorem precede_some (ts us : List Token) (state : State) :
    precede ts (some (state, us)) = some (state, ts ++ us) := rfl

@[simp] theorem precede_nil (fed : Fed) : precede [] fed = fed := by
  cases fed with
  | none => rfl
  | some p => rfl

@[simp] theorem precede_precede (ts us : List Token) (fed : Fed) :
    precede ts (precede us fed) = precede (ts ++ us) fed := by
  cases fed with
  | none => rfl
  | some p => simp [precede]

theorem feed_cons {state next : State} {c : Char} {ts : List Token}
    (h : step? state c = some (next, ts)) (cs : List Char) :
    feed state (c :: cs) = precede ts (feed next cs) := by
  rw [feed, h]

/-- Where two states take a character alike, they take any text alike that
begins with it. -/
theorem feed_congr {s t : State} {c : Char} (h : step? s c = step? t c) (cs : List Char) :
    feed s (c :: cs) = feed t (c :: cs) := by
  rw [feed, feed, h]

/-- Feeding a text in two halves is feeding it at once. -/
theorem feed_append {state next : State} {xs : List Char} {ts : List Token}
    (h : feed state xs = some (next, ts)) (ys : List Char) :
    feed state (xs ++ ys) = precede ts (feed next ys) := by
  induction xs generalizing state ts with
  | nil =>
      simp only [feed, Option.some.injEq, Prod.mk.injEq] at h
      obtain ⟨rfl, rfl⟩ := h
      rw [List.nil_append, precede_nil]
  | cons c cs ih =>
      rw [feed] at h
      rw [List.cons_append, feed]
      cases hc : step? state c with
      | none => rw [hc] at h; simp at h
      | some p =>
          obtain ⟨mid, us⟩ := p
          rw [hc] at h
          simp only [] at h ⊢
          cases hcs : feed mid cs with
          | none => rw [hcs] at h; simp [precede] at h
          | some q =>
              obtain ⟨last, vs⟩ := q
              rw [hcs, precede_some, Option.some.injEq, Prod.mk.injEq] at h
              obtain ⟨rfl, rfl⟩ := h
              rw [ih hcs, precede_precede]

/-! ## Texts between open braces -/

/-- The same state on top of other braces. -/
def State.above (s : State) (outer : List Bool) : State := ⟨s.mode, s.braces ++ outer⟩

/-- What is taken with some braces open is taken alike on top of others. -/
def Above (outer : List Bool) (fed whole : Fed) : Prop :=
  ∀ s ts, fed = some (s, ts) → whole = some (s.above outer, ts)

section Above

variable {outer : List Bool} {fed other whole more : Fed}

theorem above_none : Above outer none whole := nofun

theorem above_some (s : State) (ts : List Token) :
    Above outer (some (s, ts)) (some (s.above outer, ts)) := by
  rintro _ _ ⟨⟩
  rfl

theorem Above.ite {p : Prop} [Decidable p] (h : Above outer fed whole)
    (h' : Above outer other more) :
    Above outer (if p then fed else other) (if p then whole else more) := by
  split
  · exact h
  · exact h'

theorem Above.precede (ts : List Token) (h : Above outer fed whole) :
    Above outer (precede ts fed) (precede ts whole) := by
  intro s us hfed
  cases hf : fed with
  | none => rw [hf] at hfed; exact absurd hfed (by simp [Ecma.precede])
  | some p =>
      obtain ⟨next, vs⟩ := p
      rw [hf, precede_some, Option.some.injEq, Prod.mk.injEq] at hfed
      obtain ⟨rfl, rfl⟩ := hfed
      rw [h _ _ hf, precede_some]

theorem begin?_above (braces : List Bool) (c : Char) :
    Above outer (begin? braces c) (begin? (braces ++ outer) c) := by
  have hclose : Above outer
      (match braces with
        | [] => none
        | false :: outer => some (⟨.between, outer⟩, [.punctuator "\x7d"])
        | true :: outer => some (⟨.inside (.chunk false) [], outer⟩, []))
      (match braces ++ outer with
        | [] => none
        | false :: outer => some (⟨.between, outer⟩, [.punctuator "\x7d"])
        | true :: outer => some (⟨.inside (.chunk false) [], outer⟩, [])) := by
    match braces with
    | [] => exact above_none
    | false :: rest => exact above_some _ _
    | true :: rest => exact above_some _ _
  exact .ite (above_some _ _) <| .ite (above_some _ _) <| .ite (above_some _ _) <|
    .ite (above_some _ _) <| .ite (above_some _ _) <| .ite hclose <| .ite (above_some _ _) <|
    .ite (above_some _ _) <| .ite (above_some _ _) <| .ite (above_some _ _) above_none

theorem inside?_above (literal : Literal) (read : List Char) (braces : List Bool) (c : Char) :
    Above outer (inside? literal read braces c) (inside? literal read (braces ++ outer) c) := by
  cases literal with
  | string =>
      exact .ite (above_some _ _) <| .ite (above_some _ _) <| .ite above_none (above_some _ _)
  | chunk first =>
      exact .ite (above_some _ _) <| .ite (above_some _ _) <| .ite (above_some _ _) <|
        .ite above_none (above_some _ _)

theorem step?_above (s : State) (c : Char) :
    Above outer (step? s c) (step? (s.above outer) c) := by
  obtain ⟨mode, braces⟩ := s
  cases mode with
  | between => exact begin?_above braces c
  | slash => exact .ite (above_some _ _) above_none
  | comment => exact above_some _ _
  | name read => exact .ite (above_some _ _) ((begin?_above braces c).precede _)
  | numeral read =>
      refine .ite (above_some _ _) ?_
      simp only [State.above]
      split
      · exact (begin?_above braces c).precede _
      · exact above_none
  | operator read =>
      exact .ite (above_some _ _) <| .ite ((begin?_above braces c).precede _) above_none
  | inside literal read => exact inside?_above literal read braces c
  | dollar first read => exact .ite (above_some _ _) (inside?_above _ _ braces c)
  | escape literal read letters =>
      simp only [step?, State.above]
      split
      · exact above_some _ _
      · exact above_some _ _
      · exact above_none

/-- A text that leaves alone the braces around it is read the same way between
any braces. -/
theorem feed_above (cs : List Char) (s : State) :
    Above outer (feed s cs) (feed (s.above outer) cs) := by
  induction cs generalizing s with
  | nil => exact above_some _ _
  | cons c cs ih =>
      rw [feed, feed]
      cases hstep : step? s c with
      | none => exact above_none
      | some p =>
          obtain ⟨next, ts⟩ := p
          rw [step?_above s c next ts hstep]
          exact (ih next).precede ts

end Above

end LoadScript.Ecma
