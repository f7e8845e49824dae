import LoadScript.Json.Value
import LoadScript.OrderedMap

/-!
# Variables and where they come from

A script knows variables of four origins. Three are maps from names to JSON values; the fourth is a
data file that supplies a row of values for each iteration.
-/

namespace LoadScript

/-- Variables in the order of their declaration. -/
abbrev Variables := OrderedMap String Json.Value

/-- The data file that rows come from, or none. -/
inductive RowSource where
  | absent
  | json (path : String)
  | csv (path : String)
  deriving DecidableEq, Repr

structure Sources where
  globals : Option Variables
  environment : Option Variables
  collection : Option Variables
  data : RowSource

end LoadScript
