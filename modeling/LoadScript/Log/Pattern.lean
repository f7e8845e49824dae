import LoadScript.Text.Alphanumeric
import LoadScript.Text.Blank

/-!
# Patterns

A directive can ask that a field of a span has a value, by a number or by a regular expression.
Nothing opens spans here, so no value is ever compared with one. What counts is whether a value can
be read: one that cannot spoils its directive.

A regular expression is read character by character, by a `Reader` that knows what is still open.
It ends before the first closing brace of the directive, so nothing that needs one, such as a
counted repetition, can be completed in it.
-/

namespace LoadScript.Log.Pattern

structure Mode where
  /-- Whether the expression speaks of characters; else it speaks of bytes, and then it may not
  match a byte beyond ASCII. -/
  unicode : Bool
  /-- Whether blanks, and comments from `#` to the end of the line, are left out. -/
  spaced : Bool
  deriving DecidableEq, Repr

inductive ClassPlace where
  | opened
  | inverted
  /-- Behind hyphens at the front, which stand for themselves. -/
  | hyphens
  | between
  /-- Behind a member, with the character that it stands for if it is a single one. When `doubles`,
  the same character again makes an operator of the two. -/
  | behind (last : Option Char) (doubles : Bool)
  /-- Behind a member and the hyphen of a range. When not `joins`, a further hyphen makes no operator
  with this one. -/
  | range (first : Option Char) (joins : Bool)
  deriving DecidableEq, Repr

inductive Host where
  | expression
  /-- A class, so many brackets deep, in which the escape is a member. -/
  | member (depth : Nat)
  | rangeEnd (depth : Nat) (first : Option Char)
  deriving DecidableEq, Repr

inductive Place where
  | expression
  | inClass (depth : Nat) (place : ClassPlace)
  | escape (host : Host)
  /-- In the number of a character, of which so many digits are missing. When `byte`, it has two
  digits in all. -/
  | number (host : Host) (byte : Bool) (missing value : Nat)
  | category (host : Host)
  | group
  | mark
  | namedMark
  | name (letters : List Char)
  | flags (letters : List Char)
  deriving DecidableEq, Repr

structure Reader where
  place : Place
  mode : Mode
  /-- For every open group the mode that holds behind it. -/
  outer : List Mode
  /-- Whether there is something that a repetition can repeat. -/
  repeatable : Bool
  names : List (List Char)
  comment : Bool
  deriving DecidableEq, Repr

namespace Place

def leavesBlanksOut : Place → Bool
  | expression | inClass .. | number .. | category _ | group => true
  | escape _ | mark | namedMark | name _ | flags _ => false

/-- The place behind a blank that is left out: what it parts makes no operator. -/
def behindBlank : Place → Place
  | inClass depth (.behind last _) => inClass depth (.behind last false)
  | inClass depth (.range first _) => inClass depth (.range first false)
  | place => place

end Place

/-- Whether a character can be escaped to stand for itself: the ASCII characters but for letters,
digits and the angle brackets, which have meanings of their own. -/
def standsForItself (c : Char) : Bool :=
  c.toNat ≤ 0x7F && !c.isAlphanum && c ≠ '<' && c ≠ '>'

def controlCharacter? : Char → Option Char
  | 'a' => some '\x07'
  | 'f' => some '\x0c'
  | 't' => some '\t'
  | 'n' => some '\n'
  | 'r' => some '\r'
  | 'v' => some '\x0b'
  | _ => none

def hexDigit? (c : Char) : Option Nat :=
  if c.isDigit then some (c.toNat - '0'.toNat)
  else if 'a' ≤ c ∧ c ≤ 'f' then some (c.toNat - 'a'.toNat + 10)
  else if 'A' ≤ c ∧ c ≤ 'F' then some (c.toNat - 'A'.toNat + 10)
  else none

namespace Reader

def start : Reader where
  place := .expression
  mode := ⟨true, false⟩
  outer := []
  repeatable := false
  names := []
  comment := false

def goto (r : Reader) (place : Place) : Option Reader := some { r with place := place }

/-- Goes on in the expression, behind something that can be repeated or not. -/
def proceed (r : Reader) (repeatable : Bool) : Option Reader :=
  some { r with place := .expression, repeatable := repeatable }

def gotoClass (r : Reader) (depth : Nat) (place : ClassPlace) : Option Reader :=
  r.goto (.inClass depth place)

def closeClass (r : Reader) (depth : Nat) : Option Reader :=
  if depth ≤ 1 then r.proceed true else r.gotoClass (depth - 1) .between

/-- Takes in an escape that stands for one character. A range goes upward. -/
def takeCharacter (r : Reader) (c : Char) : Host → Option Reader
  | .expression => r.proceed true
  | .member depth => r.gotoClass depth (.behind (some c) false)
  | .rangeEnd depth first => if first.any (· ≤ c) then r.gotoClass depth .between else none

/-- Takes in an escape that stands for a class. No range ends in one. -/
def takeClass (r : Reader) : Host → Option Reader
  | .expression => r.proceed true
  | .member depth => r.gotoClass depth (.behind none false)
  | .rangeEnd .. => none

/-- Reads the character behind a backslash. Of the assertions only those on the ends of the text are
possible when the expression speaks of characters. -/
def readEscape (r : Reader) (host : Host) (c : Char) : Option Reader :=
  if c = 'x' then r.goto (.number host true 2 0)
  else if c = 'u' then r.goto (.number host false 4 0)
  else if c = 'U' then r.goto (.number host false 8 0)
  else if c = 'p' ∨ c = 'P' then if r.mode.unicode then r.goto (.category host) else none
  else if c = 'd' ∨ c = 's' ∨ c = 'w' then r.takeClass host
  else if c = 'D' ∨ c = 'S' ∨ c = 'W' then if r.mode.unicode then r.takeClass host else none
  else if standsForItself c then r.takeCharacter c host
  else match controlCharacter? c with
    | some control => r.takeCharacter control host
    | none =>
      if host ≠ .expression then none
      else if c = 'A' ∨ c = 'z' then r.proceed true
      else if c = 'b' ∨ c = 'B' ∨ c = '<' ∨ c = '>' then
        if r.mode.unicode then none else r.proceed true
      else none

def takeNumber (r : Reader) (host : Host) (byte : Bool) (value : Nat) : Option Reader :=
  if !value.isValidChar then none
  else if !r.mode.unicode && 0x7F < value && (byte || host ≠ .expression) then none
  else r.takeCharacter (Char.ofNat value) host

def readNumber (r : Reader) (host : Host) (byte : Bool) (missing value : Nat) (c : Char) :
    Option Reader :=
  match hexDigit? c with
  | none => none
  | some digit =>
    if missing ≤ 1 then r.takeNumber host byte (16 * value + digit)
    else r.goto (.number host byte (missing - 1) (16 * value + digit))

def readMember (r : Reader) (depth : Nat) (c : Char) : Option Reader :=
  if c = '[' then r.gotoClass (depth + 1) .opened
  else if c = ']' then r.closeClass depth
  else if c = '\\' then r.goto (.escape (.member depth))
  else if !r.mode.unicode && 0x7F < c.toNat then none
  else r.gotoClass depth (.behind (some c) ("&-~".contains c))

def readClass (r : Reader) (depth : Nat) (place : ClassPlace) (c : Char) : Option Reader :=
  match place with
  | .opened =>
    if c = '^' then if r.mode.unicode then r.gotoClass depth .inverted else none
    else if c = '-' then r.gotoClass depth .hyphens
    else if c = ']' then r.gotoClass depth .between
    else r.readMember depth c
  | .inverted =>
    if c = '-' then r.gotoClass depth .hyphens
    else if c = ']' then r.gotoClass depth .between
    else r.readMember depth c
  | .hyphens => if c = '-' then r.gotoClass depth .hyphens else r.readMember depth c
  | .between => r.readMember depth c
  | .behind last doubles =>
    if doubles && last = some c then r.gotoClass depth .between
    else if c = '-' then r.gotoClass depth (.range last true)
    else r.readMember depth c
  | .range first joins =>
    if c = ']' then r.closeClass depth
    else if c = '-' then r.gotoClass depth (if joins then .between else .range (some '-') true)
    else if c = '\\' then r.goto (.escape (.rangeEnd depth first))
    else if !r.mode.unicode && 0x7F < c.toNat then none
    else r.takeCharacter c (.rangeEnd depth first)

def readExpression (r : Reader) (c : Char) : Option Reader :=
  if c = '(' then some { r with place := .group, outer := r.mode :: r.outer, repeatable := false }
  else if c = ')' then
    match r.outer with
    | [] => none
    | mode :: outer =>
      some { r with place := .expression, mode := mode, outer := outer, repeatable := true }
  else if c = '|' then r.proceed false
  else if c = '[' then r.gotoClass 1 .opened
  else if c = '?' ∨ c = '*' ∨ c = '+' then if r.repeatable then r.proceed true else none
  else if c = '\x7b' then none
  else if c = '\\' then r.goto (.escape .expression)
  else if c = '.' then if r.mode.unicode then r.proceed true else none
  else r.proceed true

/-- The mode that flags set, where those behind the hyphen are taken away. -/
def flagged (mode : Mode) (letters : List Char) : Mode :=
  let given := letters.takeWhile (· ≠ '-')
  let set (letter : Char) (before : Bool) := given.contains letter || before && !letters.contains letter
  ⟨set 'u' mode.unicode, set 'x' mode.spaced⟩

/-- Reads a character of the flags of a group. Flags without a colon hold for what is left of the
group around them. -/
def readFlags (r : Reader) (letters : List Char) (c : Char) : Option Reader :=
  if c = ':' ∨ c = ')' then
    if letters.getLast? = some '-' ∨ c = ')' ∧ letters = [] then none
    else
      some { r with
        place := .expression
        mode := flagged r.mode letters
        outer := if c = ')' then r.outer.tail else r.outer }
  else if !"imsUuRx-".contains c || letters.contains c then none
  else r.goto (.flags (letters ++ [c]))

def readName (r : Reader) (letters : List Char) (c : Char) : Option Reader :=
  if c = '>' then
    if letters = [] ∨ letters ∈ r.names then none
    else some { r with place := .expression, names := letters :: r.names }
  else if c = '_' || Text.isAlphabetic c
      || letters ≠ [] && (".[]".contains c || Text.isAlphanumeric c) then
    r.goto (.name (letters ++ [c]))
  else none

/-- Reads a character where no comment is open and no blank is left out. -/
def readHere (r : Reader) (c : Char) : Option Reader :=
  match r.place with
  | .expression => r.readExpression c
  | .inClass depth place => r.readClass depth place c
  | .escape host => r.readEscape host c
  | .number host byte missing value => r.readNumber host byte missing value c
  | .category host => if "CLMNPSZclmnpsz".contains c then r.takeClass host else none
  | .group => if c = '?' then r.goto .mark else r.readExpression c
  | .mark =>
    if c = 'P' then r.goto .namedMark
    else if c = '<' then r.goto (.name [])
    else r.readFlags [] c
  | .namedMark => if c = '<' then r.goto (.name []) else none
  | .name letters => r.readName letters c
  | .flags letters => r.readFlags letters c

def read (r : Reader) (c : Char) : Option Reader :=
  if r.comment then some { r with comment := c ≠ '\n' }
  else if r.mode.spaced && r.place.leavesBlanksOut && (Text.isBlank c || c = '#') then
    some { r with comment := c = '#', place := r.place.behindBlank }
  else r.readHere c

end Reader

/-- Whether a text can be read as a regular expression: nothing is left open at its end. -/
def isExpression (text : List Char) : Bool :=
  (text.foldlM Reader.read Reader.start).any fun r => r.place = .expression && r.outer.isEmpty

def isExponent (text : List Char) : Bool :=
  let digits := if text.head? = some '+' ∨ text.head? = some '-' then text.tail else text
  !digits.isEmpty && digits.all Char.isDigit

def isDecimal (text : List Char) : Bool :=
  let whole := text.takeWhile Char.isDigit
  let rest := text.dropWhile Char.isDigit
  let fraction := if rest.head? = some '.' then rest.tail.takeWhile Char.isDigit else []
  let rest := if rest.head? = some '.' then rest.tail.dropWhile Char.isDigit else rest
  !(whole ++ fraction).isEmpty && match rest with
    | [] => true
    | mark :: exponent => (mark = 'e' || mark = 'E') && isExponent exponent

/-- Whether a text is a number with a plus in front. Numbers without it can be read as expressions
too. -/
def isPlusNumber : List Char → Bool
  | '+' :: text =>
    isDecimal text || ["inf", "infinity", "nan"].contains (Text.lowerAscii (String.ofList text))
  | _ => false

def isValue (text : List Char) : Bool := isPlusNumber text || isExpression text

end LoadScript.Log.Pattern
