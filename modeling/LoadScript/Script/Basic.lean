import LoadScript.Script.Call
import LoadScript.Script.Rows
import LoadScript.Script.Scope
import LoadScript.Traced

/-!
# Scripts

A script imports what it uses, declares its variables, and replays the recorded requests in their
order. All calls are compiled before anything is written, so a transaction that cannot be compiled
leaves no script behind.
-/

namespace LoadScript

structure Script where
  rows : Option Script.RowsUse
  scope : Script.Scope
  calls : List Script.Call

namespace Script

/-- The call for a transaction, reporting that it is being compiled. -/
def compile (t : Transaction) : Traced Call := do
  Traced.report (.compiling t.name t.method t.body.kind)
  Traced.ofExcept (Call.ofTransaction t)

def compileAll : List Transaction → Traced (List Call)
  | [] => pure []
  | t :: rest => do
    let call ← compile t
    let calls ← compileAll rest
    pure (call :: calls)

def ofTransactions (transactions : List Transaction) (sources : Sources) : Traced Script := do
  let calls ← compileAll transactions
  pure { rows := RowsUse.ofSource? sources.data, scope := Scope.ofSources sources, calls }

/-- The whole text of a script without requests. -/
def emptyText : String := "// No HTTP/HTTPS transactions have been recorded"

/-- The comment at the top, and the imports. -/
def headLines (rows : Option RowsUse) : List String :=
  ["// Auto-generated by the Load Impact converter", "", "import \"./postman-shim.js\";"]
    ++ (if rows.any RowsUse.isTable then [RowsUse.tableImport] else [])
    ++ ["import http from \"k6/http\";", "", "export let options = \x7b maxRedirects: 4 \x7d;", ""]

def rowsLines : Option RowsUse → List String
  | none => []
  | some rows => [rows.prologue, ""]

/-- The symbols under which the run-time library is reached. -/
def symbolLines (rows : Option RowsUse) : List String :=
  ["const Scope = Symbol.for(\"scope\");", "const Var = Symbol.for(\"variable\");"]
    ++ (if rows.isSome then ["const Iteration = Symbol.for(\"iteration\");"] else [])

def openingLines (rows : Option RowsUse) : List String :=
  ["export default function() \x7b", "  let res;"]
    ++ (if rows.isSome then ["", "  " ++ RowsUse.iteration] else [])

def callLines (call : Call) : List String := ["", "  res = " ++ call.render ++ ";"]

def frontLines (script : Script) : List String :=
  headLines script.rows ++ rowsLines script.rows ++ symbolLines script.rows
    ++ [script.scope.render, ""] ++ openingLines script.rows

/-- The lines of a script; a call or a statement that spans several lines counts as one. -/
def lines (script : Script) : List String :=
  script.frontLines ++ script.calls.flatMap callLines ++ ["\x7d", ""]

def render (script : Script) : String :=
  if script.calls.isEmpty then emptyText else "\n".intercalate script.lines

end Script

end LoadScript
