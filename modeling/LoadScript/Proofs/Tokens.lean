import LoadScript.Proofs.Call
import LoadScript.Proofs.Scope
import LoadScript.Script.Basic

/-!
# The tokens of a script

Read as source text, a script consists of statements whose tokens are known: the
fixed ones, and between them the scope statement and a statement for each call.
`tokens?_render` puts them together. The text is cut at its line feeds for that,
since the comments need the ends of their lines; the two blocks of a script, the
function that loads the rows and the one that is run in each iteration, are
spelled from brace to brace.
-/

namespace LoadScript.Script

open Ecma

/-! ## Lines -/

/-- Lines with a line feed behind each. -/
def unlines (lines : List String) : String := String.join (lines.map (· ++ "\n"))

theorem unlines_append (lines more : List String) :
    unlines (lines ++ more) = unlines lines ++ unlines more := by
  rw [unlines, List.map_append, String.join_append]
  rfl

theorem unlines_cons (line : String) (rest : List String) :
    unlines (line :: rest) = line ++ "\n" ++ unlines rest := by
  rw [unlines, List.map_cons, String.join_cons]
  rfl

/-- A text whose last line is empty is its lines with a line feed behind each. -/
theorem intercalate_lines (lines : List String) :
    "\n".intercalate (lines ++ [""]) = unlines lines := by
  induction lines with
  | nil => rfl
  | cons line rest ih =>
      rw [List.cons_append, String.intercalate_cons_of_ne_nil (by simp), ih, unlines_cons]

def SpellsLines (lines : List String) (ts : List Token) : Prop := Spells (unlines lines) ts

theorem SpellsLines.append {lines more : List String} {ts us : List Token}
    (h : SpellsLines lines ts) (h' : SpellsLines more us) :
    SpellsLines (lines ++ more) (ts ++ us) := by
  rw [SpellsLines, unlines_append]
  exact Spells.append h h'

theorem SpellsLines.flatMap {α : Type} {f : α → List String} {g : α → List Token} {xs : List α}
    (h : ∀ x ∈ xs, SpellsLines (f x) (g x)) : SpellsLines (xs.flatMap f) (xs.flatMap g) := by
  induction xs with
  | nil => exact Spells.empty
  | cons x rest ih =>
      rw [List.flatMap_cons, List.flatMap_cons]
      exact (h x (by simp)).append (ih fun y hy => h y (by simp [hy]))

theorem spellsLines_pair {line : String} {ts : List Token} (h : Spells line ts) :
    SpellsLines [line, ""] ts := by
  have hbreaks : Spells ("\n" ++ ("" ++ "\n")) [] := fun _ => rfl
  have hline := h.append hbreaks
  rw [List.append_nil, ← String.append_assoc] at hline
  rw [SpellsLines, unlines_cons, unlines_cons, unlines, List.map_nil, String.join_nil,
    String.append_empty]
  exact hline

/-! ## The statements of a script -/

def importTokens (name file : String) : List Token :=
  [.name "import", .name name, .name "from", .string file, .punctuator ";"]

/-- The tokens of the imports, with or without the one of the table parser, and
of the options. -/
def headTokens (table : Bool) : List Token :=
  [.name "import", .string "./postman-shim.js", .punctuator ";"]
    ++ (if table then importTokens "papaparse" "./papaparse.js" else [])
    ++ importTokens "http" "k6/http"
    ++ [.name "export", .name "let", .name "options", .punctuator "=", .punctuator "\x7b",
      .name "maxRedirects", .punctuator ":", .numeral ⟨false, ['4'], none, none⟩,
      .punctuator "\x7d", .punctuator ";"]

def rowsFrontTokens : List Token :=
  [.name "const", .name "file", .punctuator "=", .punctuator "(", .punctuator "(",
    .punctuator ")", .punctuator "=>", .punctuator "\x7b", .name "const", .name "text",
    .punctuator "=", .name "open", .punctuator "("]

def parserTokens (table : Bool) : List Token :=
  if table then
    [.name "papaparse", .punctuator ".", .name "parse", .punctuator "(", .name "text",
      .punctuator ",", .punctuator "\x7b", .name "header", .punctuator ":", .name "true",
      .punctuator "\x7d", .punctuator ")", .punctuator ".", .name "data"]
  else
    [.name "JSON", .punctuator ".", .name "parse", .punctuator "(", .name "text",
      .punctuator ")"]

def rowsBackTokens (table : Bool) : List Token :=
  [.punctuator ")", .punctuator ";", .name "const", .name "rows", .punctuator "="]
    ++ parserTokens table
    ++ [.punctuator ";", .name "return", .name "rows", .punctuator ";", .punctuator "\x7d",
      .punctuator ")", .punctuator "(", .punctuator ")", .punctuator ";"]

/-- The tokens of the constant for the rows, if there are any. -/
def rowsTokens : Option RowsUse → List Token
  | none => []
  | some rows => rowsFrontTokens ++ [.string rows.path] ++ rowsBackTokens rows.isTable

def symbolTokens (name key : String) : List Token :=
  [.name "const", .name name, .punctuator "=", .name "Symbol", .punctuator ".", .name "for",
    .punctuator "(", .string key, .punctuator ")", .punctuator ";"]

/-- The tokens of the declarations of symbols, with or without the one that is
for rows. -/
def symbolsTokens (rows : Bool) : List Token :=
  symbolTokens "Scope" "scope" ++ symbolTokens "Var" "variable"
    ++ (if rows then symbolTokens "Iteration" "iteration" else [])

/-- The tokens at the beginning of the function that is run in each iteration. -/
def openingTokens (rows : Bool) : List Token :=
  [.name "export", .name "default", .name "function", .punctuator "(", .punctuator ")",
    .punctuator "\x7b", .name "let", .name "res", .punctuator ";"]
    ++ (if rows then [.name "postman", .punctuator "[", .name "Iteration", .punctuator "]",
      .punctuator "(", .punctuator ")", .punctuator ";"] else [])

def callTokens (call : Call) : List Token :=
  .name "res" :: .punctuator "=" :: call.expr.tokens ++ [.punctuator ";"]

def tokens (script : Script) : List Token :=
  headTokens (script.rows.any RowsUse.isTable) ++ rowsTokens script.rows
    ++ symbolsTokens script.rows.isSome ++ (script.scope.expr.tokens ++ [.punctuator ";"])
    ++ (openingTokens script.rows.isSome ++ script.calls.flatMap callTokens
      ++ [.punctuator "\x7d"])

/-! ## What the parts spell -/

/-- Lines that are there or not spell their tokens or none. -/
theorem SpellsLines.ite {lines : List String} {ts : List Token} (h : SpellsLines lines ts)
    (b : Bool) : SpellsLines (if b then lines else []) (if b then ts else []) := by
  cases b with
  | true => exact h
  | false => exact Spells.empty

theorem spells_headLines (rows : Option RowsUse) :
    SpellsLines (headLines rows) (headTokens (rows.any RowsUse.isTable)) := by
  have hfirst : SpellsLines
      ["// Auto-generated by the Load Impact converter", "", "import \"./postman-shim.js\";"]
      [.name "import", .string "./postman-shim.js", .punctuator ";"] :=
    .of_feed (by decide +kernel)
  have htable : SpellsLines [RowsUse.tableImport] (importTokens "papaparse" "./papaparse.js") :=
    .of_feed (by decide +kernel)
  have hlast : SpellsLines
      ["import http from \"k6/http\";", "", "export let options = \x7b maxRedirects: 4 \x7d;", ""]
      (importTokens "http" "k6/http"
        ++ [.name "export", .name "let", .name "options", .punctuator "=", .punctuator "\x7b",
          .name "maxRedirects", .punctuator ":", .numeral ⟨false, ['4'], none, none⟩,
          .punctuator "\x7d", .punctuator ";"]) := .of_feed (by decide +kernel)
  have h := (hfirst.append (htable.ite (rows.any RowsUse.isTable))).append hlast
  rw [← List.append_assoc _ (importTokens _ _)] at h
  exact h

def rowsFront : String :=
  "\n".intercalate ["const " ++ rowsName ++ " = (() => \x7b", "  // Load data file",
    "  const text = open("]

def rowsBack (parser : String) : String :=
  "\n".intercalate [");", "  const rows = " ++ parser ++ ";", "  return rows;", "\x7d)();"]

theorem prologue_eq (rows : RowsUse) :
    rows.prologue = rowsFront ++ quote rows.path ++ rowsBack rows.parser := by
  simp only [RowsUse.prologue, RowsUse.prologueLines, rowsFront, rowsBack,
    String.intercalate_cons_cons, String.intercalate_singleton, String.append_assoc]

theorem opens_rowsFront : Opens rowsFront rowsFrontTokens := .of_feed (by decide +kernel)

theorem closes_rowsBack (rows : RowsUse) :
    Closes (rowsBack rows.parser) (rowsBackTokens rows.isTable) := by
  unfold RowsUse.parser
  cases rows.isTable with
  | true => exact .of_feed (by decide +kernel)
  | false => exact .of_feed (by decide +kernel)

theorem spells_rowsLines (rows : Option RowsUse) :
    SpellsLines (rowsLines rows) (rowsTokens rows) := by
  cases rows with
  | none => exact Spells.empty
  | some rows =>
      have hprologue := opens_rowsFront.spells (spells_quote rows.path) (closes_rowsBack rows)
      rw [← prologue_eq] at hprologue
      exact spellsLines_pair hprologue

theorem spells_symbolLines (rows : Option RowsUse) :
    SpellsLines (symbolLines rows) (symbolsTokens rows.isSome) := by
  have halways : SpellsLines
      ["const Scope = Symbol.for(\"scope\");", "const Var = Symbol.for(\"variable\");"]
      (symbolTokens "Scope" "scope" ++ symbolTokens "Var" "variable") :=
    .of_feed (by decide +kernel)
  have hrows : SpellsLines ["const Iteration = Symbol.for(\"iteration\");"]
      (symbolTokens "Iteration" "iteration") := .of_feed (by decide +kernel)
  exact halways.append (hrows.ite rows.isSome)

theorem opens_openingLines (rows : Option RowsUse) :
    Opens (unlines (openingLines rows)) (openingTokens rows.isSome) := by
  unfold openingLines
  cases rows.isSome with
  | true => exact .of_feed (by decide +kernel)
  | false => exact .of_feed (by decide +kernel)

theorem spells_callLines {call : Call} (h : call.Canonical) :
    SpellsLines (callLines call) (callTokens call) := by
  have hfront : Spells ("" ++ "\n" ++ "  res = ") [.name "res", .punctuator "="] :=
    .of_feed (by decide +kernel)
  have hback : Spells (";" ++ "\n") [.punctuator ";"] := .of_feed (by decide +kernel)
  have hcall := (hfront.append h.spells).append hback
  rw [SpellsLines, callLines, unlines_cons, unlines_cons, unlines, List.map_nil,
    String.join_nil, String.append_empty]
  simp only [String.append_assoc] at hcall ⊢
  exact hcall

/-- Scripts whose texts are canonical. -/
def Canonical (script : Script) : Prop := ∀ call ∈ script.calls, call.Canonical

/-- The text of a script, cut in front of the function and of its last brace. -/
theorem render_eq_unlines {script : Script} (h : script.calls ≠ []) :
    script.render
      = unlines (headLines script.rows ++ rowsLines script.rows ++ symbolLines script.rows
          ++ [script.scope.render, ""])
        ++ (unlines (openingLines script.rows) ++ unlines (script.calls.flatMap callLines)
          ++ "\x7d\n") := by
  have hlines : script.lines = (headLines script.rows ++ rowsLines script.rows
      ++ symbolLines script.rows ++ [script.scope.render, ""]
      ++ (openingLines script.rows ++ script.calls.flatMap callLines ++ ["\x7d"])) ++ [""] := by
    simp only [lines, frontLines, List.append_assoc, List.cons_append, List.nil_append]
  have hempty : script.calls.isEmpty = false := by simpa using h
  have hlast : unlines ["\x7d"] = "\x7d\n" := rfl
  rw [render, hempty, if_neg Bool.false_ne_true, hlines, intercalate_lines, unlines_append,
    unlines_append (_ ++ _) ["\x7d"], unlines_append (openingLines _), hlast]

/-- The text of a script with calls is read as its tokens. -/
theorem tokens?_render {script : Script} (h : script.calls ≠ []) (hcanonical : script.Canonical) :
    tokens? script.render = some script.tokens := by
  have hclose : Closes "\x7d\n" [.punctuator "\x7d"] := .of_feed (by decide +kernel)
  have hcalls : SpellsLines (script.calls.flatMap callLines) (script.calls.flatMap callTokens) :=
    SpellsLines.flatMap fun call hcall => spells_callLines (hcanonical call hcall)
  have hfront := (((spells_headLines script.rows).append (spells_rowsLines script.rows)).append
    (spells_symbolLines script.rows)).append (spellsLines_pair script.scope.spells_render)
  have hbody := (opens_openingLines script.rows).spells hcalls hclose
  have hscript := Spells.append hfront hbody
  rw [← render_eq_unlines h] at hscript
  exact hscript.lexes.tokens?_eq

end LoadScript.Script
