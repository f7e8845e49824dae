import LoadScript.Script.Literal
import LoadScript.Variables

/-!
# Rows of a data file

A script with a data file loads its rows once, into a constant, and moves on to the next row at the
start of each iteration.
-/

namespace LoadScript.Script

def rowsName : String := "file"

structure RowsUse where
  path : String
  /-- Whether the file is a table, which needs the table parser. -/
  isTable : Bool
  deriving DecidableEq, Repr

namespace RowsUse

def ofSource? : RowSource → Option RowsUse
  | .absent => none
  | .json path => some ⟨path, false⟩
  | .csv path => some ⟨path, true⟩

def parser (rows : RowsUse) : String :=
  if rows.isTable then "papaparse.parse(text, \x7b header: true \x7d).data" else "JSON.parse(text)"

def prologueLines (rows : RowsUse) : List String :=
  ["const " ++ rowsName ++ " = (() => \x7b",
   "  // Load data file",
   "  const text = open(" ++ quote rows.path ++ ");",
   "  const rows = " ++ rows.parser ++ ";",
   "  return rows;",
   "\x7d)();"]

def prologue (rows : RowsUse) : String := "\n".intercalate rows.prologueLines

/-- The statement that moves on to the next row. -/
def iteration : String := "postman[Iteration](); // Advance data variables"

def tableImport : String := "import papaparse from \"./papaparse.js\";"

end RowsUse

end LoadScript.Script
