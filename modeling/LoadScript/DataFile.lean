import LoadScript.Json.Value
import LoadScript.Text.Blank

/-!
# Data files

A script takes its rows from a data file at run time, so here the file is only checked: a JSON file
has to be an array of objects, and a table has to have a header line that is not blank.
-/

namespace LoadScript.DataFile

open LoadScript.Json

def isRow : Value → Bool
  | .object _ => true
  | _ => false

/-- The number of rows that a JSON text holds; none when it is not an array of objects. -/
def rowCount? (text : String) : Option Nat := do
  let tree ← Tree.parse? text
  match ← Value.ofTree? nestingLimit tree with
  | .array rows => if rows.all isRow then some rows.length else none
  | _ => none

def hasHeader (text : String) : Bool := !Text.isBlankText (Text.firstLine text)

end LoadScript.DataFile
