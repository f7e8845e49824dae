import LoadScript.Json.Tree

/-!
# JSON values

A `Value` is what a tree stands for once everything in it has been decoded: numbers within range,
strings that are text, and objects as finite maps. The members of an object are sorted by name, in
the order of code points, and a repeated name keeps its last value; so equal values are written
alike. `Value.text` writes a value without any blank.
-/

namespace LoadScript.Json

inductive Value where
  | null
  | bool (value : Bool)
  | number (value : Number)
  | string (value : String)
  | array (elements : List Value)
  /-- An object; its members are sorted by name and no name occurs twice. -/
  | object (members : List (String × Value))
  deriving Repr, BEq, Inhabited

/-- Puts a member into sorted members: in place of one with the same name, or where it belongs. -/
def putMember {α : Type} (name : String) (value : α) : List (String × α) → List (String × α)
  | [] => [(name, value)]
  | member :: rest =>
    if name = member.1 then (name, value) :: rest
    else if name < member.1 then (name, value) :: member :: rest
    else member :: putMember name value rest

/-- Members put in from left to right: sorted, and of equal names the last. -/
def sortMembers {α : Type} (members : List (String × α)) : List (String × α) :=
  members.foldl (fun sorted member => putMember member.1 member.2 sorted) []

namespace Value

mutual

/-- The value of a tree; none when a number is out of range, a string is not text, or arrays and
objects stand more than `room` deep in each other. -/
def ofTree? (room : Nat) : Tree → Option Value
  | .null => some .null
  | .bool value => some (.bool value)
  | .numeral numeral => numeral.number?.map .number
  | .string value => value.map .string
  | .array elements =>
    match room with
    | 0 => none
    | deeper + 1 => (ofTrees? deeper elements).map .array
  | .object members =>
    match room with
    | 0 => none
    | deeper + 1 => (ofMembers? deeper members).map fun members => .object (sortMembers members)
  termination_by structural tree => tree

def ofTrees? (room : Nat) : List Tree → Option (List Value)
  | [] => some []
  | tree :: rest => do
    let value ← ofTree? room tree
    let values ← ofTrees? room rest
    some (value :: values)
  termination_by structural trees => trees

def ofMembers? (room : Nat) : List (Option String × Tree) → Option (List (String × Value))
  | [] => some []
  | (name, tree) :: rest => do
    let name ← name
    let value ← ofTree? room tree
    let members ← ofMembers? room rest
    some ((name, value) :: members)
  termination_by structural members => members

end

def hexByte (n : Nat) : List Char := [Nat.digitChar (n / 16), Nat.digitChar (n % 16)]

def escapeChar (c : Char) : List Char :=
  match c with
  | '"' => ['\\', '"']
  | '\\' => ['\\', '\\']
  | '\x08' => ['\\', 'b']
  | '\x0c' => ['\\', 'f']
  | '\n' => ['\\', 'n']
  | '\r' => ['\\', 'r']
  | '\t' => ['\\', 't']
  | c => if c < ' ' then '\\' :: 'u' :: '0' :: '0' :: hexByte c.toNat else [c]

def quoted (s : String) : String :=
  "\"" ++ String.ofList (s.toList.flatMap escapeChar) ++ "\""

mutual

/-- A value as JSON text without blanks. -/
def text : Value → String
  | .null => "null"
  | .bool true => "true"
  | .bool false => "false"
  | .number value => value.text
  | .string value => quoted value
  | .array elements => "[" ++ ",".intercalate (elementTexts elements) ++ "]"
  | .object members => "\x7b" ++ ",".intercalate (memberTexts members) ++ "\x7d"
  termination_by structural value => value

def elementTexts : List Value → List String
  | [] => []
  | value :: rest => text value :: elementTexts rest
  termination_by structural values => values

def memberTexts : List (String × Value) → List String
  | [] => []
  | (name, value) :: rest => (quoted name ++ ":" ++ text value) :: memberTexts rest
  termination_by structural members => members

end

end Value

/-- How deep arrays and objects of a document may stand in each other. -/
def nestingLimit : Nat := 127

end LoadScript.Json
