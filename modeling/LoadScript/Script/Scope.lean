import LoadScript.Script.Object
import LoadScript.Script.Rows

/-!
# The scope statement

The variables of a script are declared in one statement, by origin and in a fixed order. An origin
without variables is left out, and so is the whole argument when nothing is declared. Which origin
wins when a name is declared twice is decided at run time.
-/

namespace LoadScript.Script

inductive Origin where
  | global
  | environment
  | collection
  | data
  deriving DecidableEq, Repr

def Origin.key : Origin → String
  | global => "global"
  | environment => "environment"
  | collection => "collection"
  | data => "data"

inductive Declared where
  | values (vars : Variables)
  | rows

/-- The declaration of variables: the origins that declare something, in their order. -/
structure Scope where
  entries : List (Origin × Declared)

/-- The declaration of an origin that is a map; an empty map declares nothing. -/
def declaredValues (origin : Origin) : Option Variables → List (Origin × Declared)
  | none => []
  | some vars => if vars.isEmpty then [] else [(origin, .values vars)]

def declaredRows : RowSource → List (Origin × Declared)
  | .absent => []
  | _ => [(.data, .rows)]

/-- A variable's value as source text. -/
def valueText : Json.Value → String
  | .string s => quote s
  | value => value.text

namespace Scope

def ofSources (sources : Sources) : Scope :=
  ⟨declaredValues .global sources.globals
    ++ declaredValues .environment sources.environment
    ++ declaredValues .collection sources.collection
    ++ declaredRows sources.data⟩

def isEmpty (scope : Scope) : Bool := scope.entries.isEmpty

def entryMember : Origin × Declared → String
  | (origin, .rows) => member origin.key rowsName
  | (origin, .values vars) =>
    member origin.key (blockObject "  "
      (vars.entries.map fun entry => member entry.1 (valueText entry.2)))

def render (scope : Scope) : String :=
  "postman[Scope]("
    ++ (if scope.isEmpty then "" else blockObject "" (scope.entries.map entryMember)) ++ ");"

end Scope

end LoadScript.Script
