import LoadScript.Json.Value

/-!
# Records in JSON documents

A record has declared fields. It is written as an object, whose members are found by name in any
order, or as an array, whose elements are the fields in the order of their declaration. Of an
object's members only the declared ones are looked at: others may repeat and may hold anything that
is JSON. A declared member may stand once only.
-/

namespace LoadScript.Json

abbrev Record := List (String × Tree)

namespace Tree

/-- The members of an object that have one of the given names; none when the name of any member is
not text. -/
def knownMembers? (names : List String) : List (Option String × Tree) → Option Record
  | [] => some []
  | (name, value) :: rest => do
    let name ← name
    let known ← knownMembers? names rest
    some (if name ∈ names then (name, value) :: known else known)

def record? (names : List String) : Tree → Option Record
  | .object members => do
    let known ← knownMembers? names members
    if (known.map Prod.fst).Nodup then some known else none
  | .array elements => if elements.length ≤ names.length then some (names.zip elements) else none
  | _ => none

def string? : Tree → Option String
  | .string value => value
  | _ => none

def bool? : Tree → Option Bool
  | .bool value => some value
  | _ => none

def elements? {α : Type} (read? : Tree → Option α) : Tree → Option (List α)
  | .array elements => elements.mapM read?
  | _ => none

end Tree

namespace Record

variable {α : Type}

def get? (record : Record) (name : String) : Option Tree :=
  (record.find? fun field => field.1 = name).map Prod.snd

/-- A field that has to be given. -/
def required? (record : Record) (name : String) (read? : Tree → Option α) : Option α :=
  (record.get? name).bind read?

/-- A field that has a value of its own when it is not given. -/
def withDefault? (record : Record) (name : String) (default : α) (read? : Tree → Option α) :
    Option α :=
  match record.get? name with
  | none => some default
  | some tree => read? tree

/-- A field that need not be given; `null` means the same. -/
def optional? (record : Record) (name : String) (read? : Tree → Option α) : Option (Option α) :=
  match record.get? name with
  | none | some .null => some none
  | some tree => (read? tree).map some

end Record

end LoadScript.Json
