import LoadScript.Log.Filter

/-!
# What is logged

The environment says which events are logged, by the text of a filter, and in which form.
-/

namespace LoadScript.Log

inductive Format where
  | text
  | json
  deriving DecidableEq, Repr

structure Settings where
  filter : String
  format : Format
  deriving DecidableEq, Repr

/-- The filter when none is given: warnings only, so that a run is quiet. -/
def defaultFilter : String := "collection2k6=warn"

/-- The settings for the values of the two variables that the environment may have for them. A blank
filter is none, and every format but JSON is plain text. -/
def Settings.ofEnvironment (filter format : Option String) : Settings where
  filter := match filter with
    | some filter => if Text.isBlankText filter then defaultFilter else filter
    | none => defaultFilter
  format := match format with
    | some format => if Text.lowerAscii (Text.trim format) = "json" then .json else .text
    | none => .text

/-- The directives that the filter of the settings spells. One that cannot be read counts as none. -/
def Settings.directives (settings : Settings) : Filter :=
  (Filter.parse? settings.filter).getD [⟨"collection2k6", .nothing, some .warn⟩]

end LoadScript.Log
