/-!
# Literals of a script

Texts in a script are written as string literals, as pieces of template literals, or as property
names. Every text has exactly one written form of each kind, and none of them contains a line break,
so a text can neither end its literal nor begin a new line.
-/

namespace LoadScript.Script

def quotedChar (c : Char) : List Char :=
  match c with
  | '\\' => ['\\', '\\']
  | '"' => ['\\', '"']
  | '\n' => ['\\', 'n']
  | '\r' => ['\\', 'r']
  | c => [c]

def quotedChars (cs : List Char) : List Char := cs.flatMap quotedChar

def quote (s : String) : String := "\"" ++ String.ofList (quotedChars s.toList) ++ "\""

/-- A piece of a template literal. A dollar is escaped where a brace follows it in the piece, since
the two together would open a substitution. -/
def templateChars : List Char → List Char
  | [] => []
  | '$' :: '\x7b' :: rest => '\\' :: '$' :: '\x7b' :: templateChars rest
  | c :: rest =>
    (match c with
      | '\\' => ['\\', '\\']
      | '\x60' => ['\\', '\x60']
      | '\n' => ['\\', 'n']
      | '\r' => ['\\', 'r']
      | c => [c]) ++ templateChars rest

def isNameStart (c : Char) : Bool := c.isAlpha || c = '_' || c = '$'

def isNamePart (c : Char) : Bool := c.isAlphanum || c = '_' || c = '$'

/-- Whether a text is an identifier of ASCII characters. -/
def isBareName : List Char → Bool
  | [] => false
  | c :: rest => isNameStart c && rest.all isNamePart

/-- A property name: bare where it can be, and else quoted. -/
def propertyName (s : String) : String := if isBareName s.toList then s else quote s

end LoadScript.Script
