import LoadScript.Script.Object
import LoadScript.Script.TextExpr
import LoadScript.Transaction

/-!
# Request calls

A transaction becomes one call of the `http` module of k6. The common methods have a function each;
any other method goes through `http.request`, and so does a body on `GET` or `HEAD`, whose functions
take none. Headers are not replayed, save that a urlencoded body brings its content type along.
-/

namespace LoadScript.Script

inductive Callee where
  | get
  | head
  | post
  | put
  | patch
  | del
  | options
  /-- The function that takes the method as its first argument. -/
  | request (method : String)
  deriving DecidableEq, Repr

def Callee.name : Callee → String
  | get => "get"
  | head => "head"
  | post => "post"
  | put => "put"
  | patch => "patch"
  | del => "del"
  | options => "options"
  | request _ => "request"

/-- The method as it is sent: without white space around it, and in capitals. -/
def sentMethod (method : String) : String := Text.upperAscii (Text.trim method)

/-- The function for a recorded method, with or without a body. -/
def Callee.ofMethod (method : String) (hasBody : Bool) : Callee :=
  match sentMethod method, hasBody with
  | "GET", false => get
  | "HEAD", false => head
  | "POST", _ => post
  | "PUT", _ => put
  | "PATCH", _ => patch
  | "DELETE", _ => del
  | "OPTIONS", _ => options
  | other, _ => request other

inductive Payload where
  | absent
  | text (expr : TextExpr)
  | form (fields : List (String × TextExpr))
  | urlencoded (fields : List (String × TextExpr))
  deriving DecidableEq, Repr

def Payload.isPresent : Payload → Bool
  | absent => false
  | _ => true

def fieldExprs (fields : Fields) : List (String × TextExpr) :=
  fields.entries.map fun field => (field.1, TextExpr.parse field.2)

def Payload.ofBody : Body → Payload
  | .absent => absent
  | .raw body => text (TextExpr.parse body)
  | .form fields => form (fieldExprs fields)
  | .urlencoded fields => urlencoded (fieldExprs fields)

structure Call where
  callee : Callee
  url : TextExpr
  payload : Payload
  deriving DecidableEq, Repr

/-- The call for a transaction, which has to be complete. -/
def Call.ofTransaction (t : Transaction) : Except Error Call := do
  t.check
  let payload := Payload.ofBody t.body
  .ok { callee := Callee.ofMethod t.method payload.isPresent
        url := TextExpr.parse t.url
        payload }

def fieldMembers (fields : List (String × TextExpr)) : List String :=
  fields.map fun field => member field.1 field.2.render

def urlencodedParams : String :=
  blockObject "    "
    [member "headers" (blockObject "      "
      [member "Content-Type" (quote "application/x-www-form-urlencoded")])]

namespace Call

def leading (call : Call) : List String :=
  match call.callee with
  | .request method => [quote method, call.url.render]
  | _ => [call.url.render]

def renderInline (call : Call) (arguments : List String) : String :=
  "http." ++ call.callee.name ++ "(" ++ ", ".intercalate arguments ++ ")"

def renderBlock (call : Call) (arguments : List String) : String :=
  "http." ++ call.callee.name ++ "(\n"
    ++ ",\n".intercalate (arguments.map fun argument => "    " ++ argument) ++ "\n  )"

/-- The call as source text, for a statement that is indented by two blanks. -/
def render (call : Call) : String :=
  match call.payload with
  | .absent => call.renderInline call.leading
  | .text expr => call.renderInline (call.leading ++ [expr.render])
  | .form fields => call.renderInline (call.leading ++ [blockObject "  " (fieldMembers fields)])
  | .urlencoded fields =>
    call.renderBlock (call.leading ++ [inlineObject (fieldMembers fields), urlencodedParams])

end Call

end LoadScript.Script
