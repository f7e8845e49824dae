import LoadScript.Json.Token

/-!
# JSON documents as written

A `Tree` keeps what a text says and resolves nothing: members stay in their order with their
repetitions, numbers stay numerals, and a string that denotes no text is kept as such. Whether that
matters is for the reader of the tree to decide: a member that nobody asks for may hold what could
not be decoded.
-/

namespace LoadScript.Json

inductive Tree where
  | null
  | bool (value : Bool)
  | numeral (value : Numeral)
  /-- A string; without text when an escaped surrogate stands alone in it. -/
  | string (value : Option String)
  | array (elements : List Tree)
  | object (members : List (Option String × Tree))
  deriving Repr, BEq, Inhabited

namespace Tree

/-- An array or object that has begun and has not ended, with what it holds so far, last first. -/
inductive Frame where
  | array (elements : List Tree)
  | object (members : List (Option String × Tree))
  /-- An object in which the value of a member with this name comes next. -/
  | member (members : List (Option String × Tree)) (name : Option String)

inductive Expect where
  | value
  | valueOrEnd
  | nameOrEnd
  | name
  | colon
  | after (value : Tree)

def ofToken? : Token → Option Tree
  | .null => some .null
  | .bool value => some (.bool value)
  | .numeral value => some (.numeral value)
  | .string value => some (.string value)
  | _ => none

/-- One token of a document: what comes next after it, and the containers that are then open,
innermost first. -/
def step? (expect : Expect) (frames : List Frame) (token : Token) :
    Option (Expect × List Frame) :=
  match expect, token, frames with
  | .value, .openBracket, _ | .valueOrEnd, .openBracket, _ =>
    some (.valueOrEnd, .array [] :: frames)
  | .value, .openBrace, _ | .valueOrEnd, .openBrace, _ => some (.nameOrEnd, .object [] :: frames)
  | .valueOrEnd, .closeBracket, .array elements :: outer =>
    some (.after (.array elements.reverse), outer)
  | .value, token, _ | .valueOrEnd, token, _ => (ofToken? token).map (.after ·, frames)
  | .nameOrEnd, .closeBrace, .object members :: outer =>
    some (.after (.object members.reverse), outer)
  | .nameOrEnd, .string name, .object members :: outer | .name, .string name, .object members :: outer =>
    some (.colon, .member members name :: outer)
  | .colon, .colon, _ => some (.value, frames)
  | .after value, .comma, .array elements :: outer => some (.value, .array (value :: elements) :: outer)
  | .after value, .closeBracket, .array elements :: outer =>
    some (.after (.array (value :: elements).reverse), outer)
  | .after value, .comma, .member members name :: outer =>
    some (.name, .object ((name, value) :: members) :: outer)
  | .after value, .closeBrace, .member members name :: outer =>
    some (.after (.object ((name, value) :: members).reverse), outer)
  | _, _, _ => none

def ofTokensFrom? (expect : Expect) (frames : List Frame) : List Token → Option Tree
  | [] => match expect, frames with
    | .after value, [] => some value
    | _, _ => none
  | token :: rest =>
    match step? expect frames token with
    | none => none
    | some (expect, frames) => ofTokensFrom? expect frames rest

def ofTokens? (tokens : List Token) : Option Tree := ofTokensFrom? .value [] tokens

/-- The document that a text holds, by RFC 8259 to the letter. -/
def parse? (text : String) : Option Tree := (tokens? text.toList).bind ofTokens?

end Tree

end LoadScript.Json
