import LoadScript.Json.Record
import LoadScript.Variables

/-!
# Variable files

A file of variables is read in one of two ways. An export is an object with a list `values` of
entries, of which the enabled ones count. Any other object is a flat map from names to values; so is
one whose `values` are not a list of entries throughout.
-/

namespace LoadScript

open LoadScript.Json

structure ExportedEntry where
  key : String
  value : Value
  enabled : Bool
  deriving Repr, BEq

/-- Reads an entry of an export. It is enabled unless it says otherwise. -/
def ExportedEntry.ofTree? : Nat → Tree → Option ExportedEntry
  | 0, _ => none
  | room + 1, tree => do
    let record ← tree.record? ["key", "value", "enabled"]
    let key ← record.required? "key" Tree.string?
    let value ← record.withDefault? "value" .null (Value.ofTree? room)
    let enabled ← record.withDefault? "enabled" true Tree.bool?
    some { key, value, enabled }

namespace Variables

/-- The entries of a document that is an export: the members of an object, one of them a list
`values` with nothing but entries in it. -/
def exported? (room : Nat) : Tree → Option (List ExportedEntry)
  | .object members => do
    let record ← Tree.record? ["values"] (.object members)
    record.required? "values" (Tree.elements? (ExportedEntry.ofTree? room))
  | _ => none

def ofExport (entries : List ExportedEntry) : Variables :=
  OrderedMap.ofList ((entries.filter (·.enabled)).map fun entry => (entry.key, entry.value))

/-- The variables of a flat map: all members of an object, in their order. -/
def flat? (room : Nat) : Tree → Option Variables
  | .object members => (Value.ofMembers? room members).map OrderedMap.ofList
  | _ => none

/-- The variables of a document. All of it has to be decodable, whichever way it is read. -/
def ofTree? (tree : Tree) : Option Variables := do
  let _ ← Value.ofTree? nestingLimit tree
  match exported? nestingLimit tree with
  | some entries => some (ofExport entries)
  | none => flat? nestingLimit tree

def parse? (text : String) : Option Variables := (Tree.parse? text).bind ofTree?

end Variables

end LoadScript
