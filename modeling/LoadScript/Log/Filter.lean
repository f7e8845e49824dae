import LoadScript.Log.Directive
import LoadScript.Text.Cut

/-!
# Filters

A filter is a list of directives. Of the directives that cover an event the one that says most about
it governs it, and an event that none covers does not pass.
-/

namespace LoadScript.Log

/-- A filter, its directives in the order in which they are given. -/
abbrev Filter := List Directive

namespace Filter

/-- Reads a filter: directives with commas between them, where a directive may be left out. -/
def parse? (text : String) : Option Filter :=
  ((Text.cutAt ',' text.toList).filter (· ≠ [])).mapM Directive.parse?

def governing? (filter : Filter) (event : Event) : Option Directive :=
  match filter.filter (·.covers event) with
  | [] => none
  | first :: rest => some (rest.foldl Directive.better first)

def passes (filter : Filter) (event : Event) : Bool :=
  (filter.governing? event).any fun directive =>
    directive.level.any fun level => event.level.rank ≤ level.rank

end Filter

end LoadScript.Log
