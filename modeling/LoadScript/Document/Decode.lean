import LoadScript.Document.Basic
import LoadScript.Json.Record

/-!
# Reading collection documents

Each type of a document has its reader from a tree, and `room` is how many arrays and objects may
still be entered. A request, a URL, and a host or path each have two written forms. There the whole
tree is decoded first, members that no field asks for included, and then the first form that fits is
taken.
-/

namespace LoadScript.Document

open LoadScript.Json

/-- An array that may be entered while there is room, each element read with the room that is
left. -/
def elementsWithin? {α : Type} (read? : Nat → Tree → Option α) : Nat → Tree → Option (List α)
  | 0, _ => none
  | room + 1, tree => tree.elements? (read? room)

def Entry.ofTree? : Nat → Tree → Option Entry
  | 0, _ => none
  | room + 1, tree => do
    let record ← tree.record? ["key", "value", "disabled", "type"]
    let key ← record.required? "key" Tree.string?
    let value ← record.withDefault? "value" .null (Value.ofTree? room)
    let disabled ← record.withDefault? "disabled" false Tree.bool?
    let kind ← record.optional? "type" Tree.string?
    some { key, value, disabled, kind }

/-- Reads a host or a path: a text, or else an array of texts. -/
def Labels.ofTree? (room : Nat) (tree : Tree) : Option Labels := do
  let _ ← Value.ofTree? room tree
  match tree with
  | .string text => text.map .joined
  | _ => (tree.elements? Tree.string?).map .list

def QueryEntry.ofTree? : Nat → Tree → Option QueryEntry
  | 0, _ => none
  | _ + 1, tree => do
    let record ← tree.record? ["key", "value", "disabled"]
    let key ← record.optional? "key" Tree.string?
    let value ← record.optional? "value" Tree.string?
    let disabled ← record.withDefault? "disabled" false Tree.bool?
    some { key, value, disabled }

def UrlParts.ofTree? : Nat → Tree → Option UrlParts
  | 0, _ => none
  | room + 1, tree => do
    let record ← tree.record? ["raw", "protocol", "host", "port", "path", "query", "hash"]
    let raw ← record.optional? "raw" Tree.string?
    let protocol ← record.optional? "protocol" Tree.string?
    let host ← record.optional? "host" (Labels.ofTree? room)
    let port ← record.optional? "port" (Value.ofTree? room)
    let path ← record.optional? "path" (Labels.ofTree? room)
    let query ← record.withDefault? "query" [] (elementsWithin? QueryEntry.ofTree? room)
    let hash ← record.optional? "hash" Tree.string?
    some { raw, protocol, host, port, path, query, hash }

def Url.ofTree? (room : Nat) (tree : Tree) : Option Url := do
  let _ ← Value.ofTree? room tree
  match tree with
  | .string text => text.map .plain
  | _ => (UrlParts.ofTree? room tree).map .structured

def Body.ofTree? : Nat → Tree → Option Body
  | 0, _ => none
  | room + 1, tree => do
    let record ← tree.record? ["mode", "raw", "urlencoded", "formdata", "disabled"]
    let mode ← record.optional? "mode" Tree.string?
    let raw ← record.optional? "raw" Tree.string?
    let urlencoded ← record.withDefault? "urlencoded" [] (elementsWithin? Entry.ofTree? room)
    let formdata ← record.withDefault? "formdata" [] (elementsWithin? Entry.ofTree? room)
    let disabled ← record.withDefault? "disabled" false Tree.bool?
    some { mode, raw, urlencoded, formdata, disabled }

def FullRequest.ofTree? : Nat → Tree → Option FullRequest
  | 0, _ => none
  | room + 1, tree => do
    let record ← tree.record? ["method", "url", "header", "body"]
    let method ← record.optional? "method" Tree.string?
    let url ← record.optional? "url" (Url.ofTree? room)
    let headers ← record.withDefault? "header" [] (elementsWithin? Entry.ofTree? room)
    let body ← record.optional? "body" (Body.ofTree? room)
    some { method, url, headers, body }

/-- Reads a request: a URL as a text, or else a full request. -/
def Request.ofTree? (room : Nat) (tree : Tree) : Option Request := do
  let _ ← Value.ofTree? room tree
  match tree with
  | .string url => url.map .bare
  | _ => (FullRequest.ofTree? room tree).map .full

def Item.ofTree? : Nat → Tree → Option Item
  | 0, _ => none
  | room + 1, tree => do
    let record ← tree.record? ["name", "request", "item"]
    let name ← record.optional? "name" Tree.string?
    let request ← record.optional? "request" (Request.ofTree? room)
    let children ← record.optional? "item" (match room with
      | 0 => fun _ => none
      | deeper + 1 => Tree.elements? (Item.ofTree? deeper))
    some (.mk name request children)

def Info.ofTree? : Nat → Tree → Option Info
  | 0, _ => none
  | _ + 1, tree => do
    let record ← tree.record? ["name", "schema"]
    let name ← record.optional? "name" Tree.string?
    let schema ← record.optional? "schema" Tree.string?
    some { name, schema }

def ofTree? : Nat → Tree → Option Document
  | 0, _ => none
  | room + 1, tree => do
    let record ← tree.record? ["info", "item", "variable"]
    let info ← record.optional? "info" (Info.ofTree? room)
    let items ← record.withDefault? "item" [] (elementsWithin? Item.ofTree? room)
    let vars ← record.withDefault? "variable" [] (elementsWithin? Entry.ofTree? room)
    some { info, items, vars }

def parse? (text : String) : Option Document := (Tree.parse? text).bind (ofTree? nestingLimit)

end LoadScript.Document
