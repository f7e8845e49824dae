import LoadScript.Script.Literal

/-!
# Objects of a script

An object is written in one line or with a line for each member. Both ways write the same members
in the same order, and differ in blanks and line breaks only.
-/

namespace LoadScript.Script

def member (name value : String) : String := propertyName name ++ ": " ++ value

def braced (inner : String) : String := "\x7b" ++ inner ++ "\x7d"

def inlineObject (members : List String) : String :=
  if members.isEmpty then braced "" else braced (" " ++ ", ".intercalate members ++ " ")

/-- An object with a line for each member. The lines are indented by `indent` and two more blanks,
and the closing brace by `indent`. -/
def blockObject (indent : String) (members : List String) : String :=
  if members.isEmpty then braced "" else
  braced ("\n" ++ ",\n".intercalate (members.map fun member => indent ++ "  " ++ member)
    ++ "\n" ++ indent)

end LoadScript.Script
