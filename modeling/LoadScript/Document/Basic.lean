import LoadScript.Json.Value

/-!
# Collection documents

The part of a recorded collection that a script is made of, as it is in the document: items that are
requests or folders or both, URLs as one text or in parts, bodies with all their alternatives, and
entries with their switches. Nothing is resolved here; `LoadScript.Collection` does that.
-/

namespace LoadScript.Document

structure Entry where
  key : String
  value : Json.Value
  disabled : Bool
  kind : Option String
  deriving Repr, BEq, Inhabited

/-- The value of an entry as a text: texts as they are, nothing for `null`, and the JSON text of any
other value. -/
def Entry.text (entry : Entry) : String :=
  match entry.value with
  | .null => ""
  | .string s => s
  | value => value.text

def Entry.isFile (entry : Entry) : Bool := entry.kind = some "file"

def enabled (entries : List Entry) : List Entry := entries.filter fun entry => !entry.disabled

/-- What a host or a path consists of: one text, or labels to be joined. -/
inductive Labels where
  | joined (text : String)
  | list (labels : List String)
  deriving Repr, DecidableEq, Inhabited

def Labels.join (separator : String) : Labels → String
  | .joined text => text
  | .list labels => separator.intercalate labels

structure QueryEntry where
  key : Option String
  value : Option String
  disabled : Bool
  deriving Repr, DecidableEq, Inhabited

/-- A query entry as it stands in a URL; without a key it does not. -/
def QueryEntry.text? (entry : QueryEntry) : Option String :=
  entry.key.map fun key =>
    match entry.value with
    | some value => key ++ "=" ++ value
    | none => key

/-- A URL in parts. `raw` is the URL as one text, which the other parts then only repeat. -/
structure UrlParts where
  raw : Option String
  protocol : Option String
  host : Option Labels
  port : Option Json.Value
  path : Option Labels
  query : List QueryEntry
  hash : Option String
  deriving Repr, BEq, Inhabited

namespace UrlParts

def hostText (parts : UrlParts) : String := (parts.host.map (Labels.join ".")).getD ""

def pathText (parts : UrlParts) : String := (parts.path.map (Labels.join "/")).getD ""

/-- The port as a text: a text that is not empty, or a number. -/
def portText? (parts : UrlParts) : Option String :=
  match parts.port with
  | some (.string port) => if port = "" then none else some port
  | some (.number port) => some port.text
  | _ => none

def queryTexts (parts : UrlParts) : List String :=
  (parts.query.filter fun entry => !entry.disabled).filterMap QueryEntry.text?

/-- The URL put together from its parts other than `raw`. Without host and path there is none. -/
def assemble? (parts : UrlParts) : Option String :=
  let host := parts.hostText
  let path := parts.pathText
  if host = "" ∧ path = "" then none else
  some <|
    (match parts.protocol with | some protocol => protocol ++ "://" | none => "")
      ++ host
      ++ (match parts.portText? with | some port => ":" ++ port | none => "")
      ++ (if path = "" then "" else if path.toList.head? = some '/' then path else "/" ++ path)
      ++ (if parts.queryTexts.isEmpty then "" else "?" ++ "&".intercalate parts.queryTexts)
      ++ (match parts.hash with | some hash => "#" ++ hash | none => "")

end UrlParts

inductive Url where
  | plain (text : String)
  | structured (parts : UrlParts)
  deriving Repr, BEq, Inhabited

/-- The URL as one text: as it was recorded, or else put together from its parts. -/
def Url.text? : Url → Option String
  | .plain text => some text
  | .structured parts =>
    match parts.raw with
    | some raw => if raw = "" then parts.assemble? else some raw
    | none => parts.assemble?

/-- A recorded body: `mode` says which of the alternatives counts. -/
structure Body where
  mode : Option String
  raw : Option String
  urlencoded : List Entry
  formdata : List Entry
  disabled : Bool
  deriving Repr, BEq, Inhabited

structure FullRequest where
  method : Option String
  url : Option Url
  headers : List Entry
  body : Option Body
  deriving Repr, BEq, Inhabited

/-- A recorded request; a bare URL stands for fetching it. -/
inductive Request where
  | bare (url : String)
  | full (request : FullRequest)
  deriving Repr, BEq, Inhabited

/-- An item of a collection. With `children` it is a folder, with `request` a request, and it can be
both. -/
inductive Item where
  | mk (name : Option String) (request : Option Request) (children : Option (List Item))
  deriving Repr, BEq, Inhabited

structure Info where
  name : Option String
  schema : Option String
  deriving Repr, DecidableEq, Inhabited

end LoadScript.Document

namespace LoadScript

structure Document where
  info : Option Document.Info
  items : List Document.Item
  vars : List Document.Entry
  deriving Repr, BEq, Inhabited

end LoadScript
