import LoadScript.Error
import LoadScript.OrderedMap
import LoadScript.Text.Blank

/-!
# Recorded requests

A transaction is one recorded request with everything a script needs of it. It can only be replayed
when it has a method and a URL; `Transaction.check` tells which of the two is missing.
-/

namespace LoadScript

/-- A map of texts in the order in which they were recorded. -/
abbrev Fields := OrderedMap String String

inductive Body where
  | absent
  | raw (text : String)
  | form (fields : Fields)
  | urlencoded (fields : Fields)
  deriving DecidableEq

def Body.kind : Body → String
  | .absent => "none"
  | .raw _ => "raw"
  | .form _ => "form"
  | .urlencoded _ => "urlencoded"

structure Transaction where
  name : String
  method : String
  url : String
  headers : Fields
  body : Body
  deriving DecidableEq

/-- Fails for a transaction whose method or URL is blank; the method is looked at first. -/
def Transaction.check (t : Transaction) : Except Error Unit :=
  if Text.isBlankText t.method then .error (.missingMethod t.name)
  else if Text.isBlankText t.url then .error (.missingUrl t.name)
  else .ok ()

end LoadScript
