import LoadScript.Collection
import LoadScript.DataFile
import LoadScript.VariableFile

/-!
# What a conversion reads

Files are read through a `Reader`, so that loading is the same whatever holds the files. The files
are read in a fixed order, which decides the error when several are at fault: collection, globals,
environment, data.
-/

namespace LoadScript

/-- What there is to read under a path. -/
abbrev Reader := String → Except FileFault String

structure Options where
  globals : Option String
  environment : Option String
  json : Option String
  csv : Option String
  deriving DecidableEq, Repr

def Options.check (options : Options) : Except Error Unit :=
  if options.json.isSome && options.csv.isSome then .error .twoDataFiles else .ok ()

namespace Reader

variable (read : Reader)

def text (path : String) : Traced String :=
  Traced.ofExcept ((read path).mapError (.unreadable path))

def collection (path : String) : Traced Collection := do
  let collection ← Collection.parse (← read.text path)
  Traced.report (.loadedCollection path collection.transactions.length)
  pure collection

def variableFile (path : String) : Traced Variables := do
  match Variables.parse? (← read.text path) with
  | none => Traced.fail (.malformedVariables path)
  | some vars =>
    Traced.report (.loadedVariables path vars.size)
    pure vars

def variableFile? : Option String → Traced (Option Variables)
  | none => pure none
  | some path => some <$> read.variableFile path

def rows (path : String) : Traced RowSource := do
  match DataFile.rowCount? (← read.text path) with
  | none => Traced.fail (.malformedRows path)
  | some count =>
    Traced.report (.loadedRows path count)
    pure (.json path)

def table (path : String) : Traced RowSource := do
  if DataFile.hasHeader (← read.text path) then
    Traced.report (.loadedTable path)
    pure (.csv path)
  else Traced.fail (.missingHeader path)

def rowSource (options : Options) : Traced RowSource := do
  Traced.ofExcept options.check
  match options.json, options.csv with
  | some path, _ => read.rows path
  | none, some path => read.table path
  | none, none => pure .absent

def sources (collection : Collection) (options : Options) : Traced Sources := do
  let globals ← read.variableFile? options.globals
  let environment ← read.variableFile? options.environment
  let data ← read.rowSource options
  pure { globals, environment, collection := some collection.vars, data }

end Reader

end LoadScript
