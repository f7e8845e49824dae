import LoadScript.Collection
import LoadScript.Text.Style

/-!
# Listing a collection

What is shown of a collection: the preamble before it is loaded, and then its name, the number of
its variables, and its requests with what is recorded of each.
-/

namespace LoadScript.Listing

open LoadScript.Text

def line (text : String) : String := text ++ "\n"

def preamble (color : Bool) (path : String) : String :=
  line (Style.brightBlue.paint color "Loading collection...") ++ line ("  Path: " ++ path)

/-- The line about a body; a request without body has none. -/
def bodyText (color : Bool) (body : Body) : String :=
  match body with
  | .absent => ""
  | .raw text => line ("     Body: raw (" ++ toString text.utf8ByteSize ++ " bytes)")
  | .form fields | .urlencoded fields =>
    line ("     Body: " ++ Style.brightYellow.paint color body.kind
      ++ " (" ++ toString fields.size ++ " fields)")

/-- The lines about a request, after an empty line. -/
def requestText (color : Bool) (number : Nat) (t : Transaction) : String :=
  line "" ++
  line ("  " ++ toString number ++ ". " ++ Style.brightCyan.paint color t.method
    ++ " " ++ Style.bold.paint color t.url) ++
  line ("     Name: " ++ t.name) ++
  (if t.headers.isEmpty then "" else line ("     Headers: " ++ toString t.headers.size)) ++
  bodyText color t.body

def requestsText (color : Bool) (number : Nat) : List Transaction → String
  | [] => ""
  | t :: rest => requestText color number t ++ requestsText color (number + 1) rest

def body (color : Bool) (collection : Collection) : String :=
  line "" ++
  line (Style.green.paint color "✓ Collection loaded successfully") ++
  (match collection.name with
    | none => ""
    | some name => line ("  Name: " ++ Style.bold.paint color name)) ++
  line ("  Variables: " ++ toString collection.vars.size) ++
  line "" ++
  (if collection.transactions.isEmpty then line (Style.yellow.paint color "No requests found")
    else
      line (Style.bold.paint color
        ("Requests (" ++ toString collection.transactions.length ++ "):")) ++
      requestsText color 1 collection.transactions)

end LoadScript.Listing
