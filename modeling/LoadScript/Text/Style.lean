/-!
# Styled text

Text for a terminal is put between two escape sequences, one that sets a style and one that resets
all of them. Where no terminal reads, texts stay as they are.
-/

namespace LoadScript.Text

inductive Style where
  | bold
  | green
  | yellow
  | brightBlue
  | brightYellow
  | brightCyan
  deriving DecidableEq, Repr

def Style.code : Style → String
  | bold => "1"
  | green => "32"
  | yellow => "33"
  | brightBlue => "94"
  | brightYellow => "93"
  | brightCyan => "96"

def Style.start (style : Style) : String := "\x1b[" ++ style.code ++ "m"

/-- A text in which a sequence follows every reset. -/
def resumeAfterReset (start : List Char) : List Char → List Char
  | '\x1b' :: '[' :: '0' :: 'm' :: rest =>
    '\x1b' :: '[' :: '0' :: 'm' :: (start ++ resumeAfterReset start rest)
  | c :: rest => c :: resumeAfterReset start rest
  | [] => []

/-- A text in a style, when there is colour at all. An empty text is styled too, and a reset inside
the text does not end the style. -/
def Style.paint (style : Style) (color : Bool) (text : String) : String :=
  if color then
    style.start ++ String.ofList (resumeAfterReset style.start.toList text.toList) ++ "\x1b[0m"
  else text

end LoadScript.Text
