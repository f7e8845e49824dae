import LoadScript.Document.Decode
import LoadScript.Traced
import LoadScript.Transaction
import LoadScript.Variables

/-!
# Collections

A collection is what a document comes to: its requests in the order of a walk through all folders,
and its variables. The walk is a list of steps, and the transactions are built from the steps one
after the other, so that the first request that cannot be built decides the error.
-/

namespace LoadScript

namespace Document

inductive Step where
  | enter (folder : String)
  | request (name : Option String) (request : Request)
  deriving Repr

mutual

/-- The walk through an item: into the folder first, and then to the item's own request. -/
def Item.walk : Item → List Step
  | .mk name request children =>
    (match children with
      | none => []
      | some items => .enter (name.getD "") :: walkAll items)
    ++ (match request with
      | none => []
      | some request => [.request name request])

def walkAll : List Item → List Step
  | [] => []
  | item :: rest => item.walk ++ walkAll rest

end

def fieldsOf (entries : List Entry) : Fields :=
  OrderedMap.ofList ((enabled entries).map fun entry => (entry.key, entry.text))

/-- The body that a recorded body comes to, by its mode, in the request with the given name. -/
def Body.resolve (name : String) (body : Body) : Except Error LoadScript.Body :=
  if body.disabled then .ok .absent else
  match body.mode with
  | none => .ok .absent
  | some mode =>
    if mode = "raw" then
      match body.raw with
      | none => .ok .absent
      | some text => .ok (if text = "" then .absent else .raw text)
    else if mode = "formdata" then
      match (enabled body.formdata).find? Entry.isFile with
      | some field => .error (.fileField field.key name)
      | none => .ok (.form (fieldsOf body.formdata))
    else if mode = "urlencoded" then .ok (.urlencoded (fieldsOf body.urlencoded))
    else .error (.bodyMode mode name)

def Request.resolve (name : String) : Request → Except Error Transaction
  | .bare url => .ok { name, method := "GET", url, headers := OrderedMap.empty, body := .absent }
  | .full request => do
    let body ← match request.body with
      | none => .ok .absent
      | some body => body.resolve name
    .ok { name
          method := request.method.getD ""
          url := (request.url.bind Url.text?).getD ""
          headers := fieldsOf request.headers
          body }

/-- The transaction of a request, which has to be complete. -/
def Request.transaction (name : String) (request : Request) : Except Error Transaction := do
  let transaction ← request.resolve name
  transaction.check
  .ok transaction

/-- The transactions of a walk, `count` transactions having come before. A request without a name is
called by its number. -/
def transactions (count : Nat) : List Step → Traced (List Transaction)
  | [] => pure []
  | .enter folder :: rest => do
    Traced.report (.enteredFolder folder)
    transactions count rest
  | .request name request :: rest => do
    let name := name.getD ("request " ++ toString (count + 1))
    let transaction ← Traced.ofExcept (request.transaction name)
    let others ← transactions (count + 1) rest
    pure (transaction :: others)

def varMap (document : Document) : Variables :=
  OrderedMap.ofList ((enabled document.vars).map fun entry => (entry.key, entry.value))

end Document

structure Collection where
  name : Option String
  transactions : List Transaction
  vars : Variables

namespace Collection

def ofDocument (document : Document) : Traced Collection := do
  let transactions ← Document.transactions 0 (Document.walkAll document.items)
  pure { name := document.info.bind Document.Info.name
         transactions
         vars := document.varMap }

def parse (text : String) : Traced Collection :=
  match Document.parse? text with
  | none => Traced.fail .malformedCollection
  | some document => ofDocument document

end Collection

end LoadScript
