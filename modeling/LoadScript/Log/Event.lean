/-!
# What a run reports on the way

The events of loading and converting, with the level, the module, the words and the fields under
which each is logged. Which of them are written, and how, is not decided here.
-/

namespace LoadScript.Log

inductive Level where
  | error
  | warn
  | info
  | debug
  | trace
  deriving DecidableEq, Repr

/-- The rank of a level; a filter lets pass what ranks no higher than it says. -/
def Level.rank : Level → Nat
  | error => 1
  | warn => 2
  | info => 3
  | debug => 4
  | trace => 5

def Level.label : Level → String
  | error => "ERROR"
  | warn => "WARN"
  | info => "INFO"
  | debug => "DEBUG"
  | trace => "TRACE"

inductive FieldValue where
  | number (value : Nat)
  /-- A text that is logged as it is. -/
  | shown (value : String)
  /-- A text that is logged in quotes. -/
  | quoted (value : String)
  deriving DecidableEq, Repr

inductive Event where
  | started (filter : String)
  | enteredFolder (name : String)
  | loadedCollection (path : String) (transactions : Nat)
  | loadedVariables (path : String) (count : Nat)
  | loadedRows (path : String) (rows : Nat)
  | loadedTable (path : String)
  | compiling (name method bodyKind : String)
  | generated (transactions bytes : Nat)
  deriving DecidableEq, Repr

namespace Event

def level : Event → Level
  | started _ | enteredFolder _ | compiling .. => .debug
  | _ => .info

def target : Event → String
  | started _ => "collection2k6::telemetry"
  | enteredFolder _ | loadedCollection .. => "collection2k6::loader::collection"
  | loadedVariables .. | loadedRows .. | loadedTable _ => "collection2k6::loader::variables"
  | compiling .. => "collection2k6::converters::k6"
  | generated .. => "collection2k6::converters"

def message : Event → String
  | started _ => "Tracing initialized"
  | enteredFolder _ => "Entering folder"
  | loadedCollection .. => "Loaded collection"
  | loadedVariables .. => "Loaded variable file"
  | loadedRows .. => "Loaded JSON data file"
  | loadedTable _ => "Loaded CSV data file"
  | compiling .. => "Compiling transaction"
  | generated .. => "Generated k6 script"

def fields : Event → List (String × FieldValue)
  | started filter => [("filter", .shown filter)]
  | enteredFolder name => [("folder", .quoted name)]
  | loadedCollection path transactions =>
    [("path", .shown path), ("transactions", .number transactions)]
  | loadedVariables path count => [("path", .shown path), ("count", .number count)]
  | loadedRows path rows => [("path", .shown path), ("rows", .number rows)]
  | loadedTable path => [("path", .shown path)]
  | compiling name method bodyKind =>
    [("name", .shown name), ("method", .shown method), ("body", .quoted bodyKind)]
  | generated transactions bytes =>
    [("transactions", .number transactions), ("bytes", .number bytes)]

end Event

end LoadScript.Log
