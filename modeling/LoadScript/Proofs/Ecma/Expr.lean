import LoadScript.Proofs.Ecma.Token

/-!
# Expressions of ECMAScript source text

The expressions that a script is made of: names, literals, templates, arrays,
objects, and the three ways to go on from an expression — a property, an index,
a call. `read?` reads the longest expression that some tokens begin with and
`ofText?` the one that a text is. Both run a machine over the tokens, with a
stack of what has begun and has not ended.

The tokens of an expression are read back whatever follows them, unless what
follows carries the expression on (`read?_tokens`). So an expression is
determined by its tokens even where they stand in front of others
(`tokens_append_inj`), which is what makes whole scripts readable.
-/

namespace LoadScript.Ecma

inductive Key where
  | bare (name : String)
  | quoted (value : String)
  deriving DecidableEq, Repr

def Key.text : Key → String
  | bare name => name
  | quoted value => value

def Key.token : Key → Token
  | bare name => .name name
  | quoted value => .string value

/-- An expression. The words `null`, `true` and `false` are names here. -/
inductive Expr where
  | name (text : String)
  | string (value : String)
  | numeral (value : Json.Numeral)
  /-- A template literal: its first chunk, and each substitution with the chunk
  after it. -/
  | template (head : String) (parts : List (Expr × String))
  | array (elements : List Expr)
  | object (members : List (Key × Expr))
  | property (target : Expr) (label : String)
  | index (target : Expr) (key : Expr)
  | call (callee : Expr) (arguments : List Expr)
  deriving Repr

namespace Expr

mutual

def tokens : Expr → List Token
  | .name text => [.name text]
  | .string value => [.string value]
  | .numeral value => [.numeral value]
  | .template head parts => .chunk true parts.isEmpty head :: partTokens parts
  | .array elements => .punctuator "[" :: listTokens elements ++ [.punctuator "]"]
  | .object members => .punctuator "\x7b" :: memberTokens members ++ [.punctuator "\x7d"]
  | .property target label => target.tokens ++ [.punctuator ".", .name label]
  | .index target key => target.tokens ++ .punctuator "[" :: key.tokens ++ [.punctuator "]"]
  | .call callee arguments =>
    callee.tokens ++ .punctuator "(" :: listTokens arguments ++ [.punctuator ")"]
  termination_by structural e => e

def partTokens : List (Expr × String) → List Token
  | [] => []
  | (e, text) :: rest => e.tokens ++ .chunk false rest.isEmpty text :: partTokens rest
  termination_by structural parts => parts

def listTokens : List Expr → List Token
  | [] => []
  | e :: rest => e.tokens ++ moreTokens rest
  termination_by structural elements => elements

def moreTokens : List Expr → List Token
  | [] => []
  | e :: rest => .punctuator "," :: e.tokens ++ moreTokens rest
  termination_by structural elements => elements

def memberTokens : List (Key × Expr) → List Token
  | [] => []
  | (key, e) :: rest => key.token :: .punctuator ":" :: e.tokens ++ moreMemberTokens rest
  termination_by structural members => members

def moreMemberTokens : List (Key × Expr) → List Token
  | [] => []
  | (key, e) :: rest =>
    .punctuator "," :: key.token :: .punctuator ":" :: e.tokens ++ moreMemberTokens rest
  termination_by structural members => members

end

/-- What has begun and has not ended, with what it holds so far, last first. -/
inductive Frame where
  | list (callee : Option Expr) (read : List Expr)
  | index (target : Expr)
  | object (read : List (Key × Expr))
  | member (read : List (Key × Expr)) (key : Key)
  | template (head : String) (read : List (Expr × String))

inductive Expect where
  | value
  /-- A value, or the end of the list that has just begun. -/
  | valueOrEnd
  /-- The name of a member, or the end of the object that has just begun. -/
  | keyOrEnd
  | key
  | colon
  | propertyOf (target : Expr)
  | after (e : Expr)

def key? : Token → Option Key
  | .name text => some (.bare text)
  | .string value => some (.quoted value)
  | _ => none

def begin? (frames : List Frame) : Token → Option (Expect × List Frame)
  | .name text => some (.after (.name text), frames)
  | .string value => some (.after (.string value), frames)
  | .numeral value => some (.after (.numeral value), frames)
  | .chunk true true value => some (.after (.template value []), frames)
  | .chunk true false value => some (.value, .template value [] :: frames)
  | .punctuator "[" => some (.valueOrEnd, .list none [] :: frames)
  | .punctuator "\x7b" => some (.keyOrEnd, .object [] :: frames)
  | _ => none

/-- A token after an expression: it carries the expression on, or belongs to
what the expression stands in. -/
def afterStep? (e : Expr) (frames : List Frame) (token : Token) :
    Option (Expect × List Frame) :=
  match token, frames with
  | .punctuator ".", _ => some (.propertyOf e, frames)
  | .punctuator "[", _ => some (.value, .index e :: frames)
  | .punctuator "(", _ => some (.valueOrEnd, .list (some e) [] :: frames)
  | .punctuator ",", .list callee read :: outer => some (.value, .list callee (e :: read) :: outer)
  | .punctuator ")", .list (some callee) read :: outer =>
    some (.after (.call callee (e :: read).reverse), outer)
  | .punctuator "]", .list none read :: outer => some (.after (.array (e :: read).reverse), outer)
  | .punctuator "]", .index target :: outer => some (.after (.index target e), outer)
  | .punctuator ",", .member read key :: outer => some (.key, .object ((key, e) :: read) :: outer)
  | .punctuator "\x7d", .member read key :: outer =>
    some (.after (.object ((key, e) :: read).reverse), outer)
  | .chunk false false text, .template head read :: outer =>
    some (.value, .template head ((e, text) :: read) :: outer)
  | .chunk false true text, .template head read :: outer =>
    some (.after (.template head ((e, text) :: read).reverse), outer)
  | _, _ => none

def step? (expect : Expect) (frames : List Frame) (token : Token) :
    Option (Expect × List Frame) :=
  match expect with
  | .value => begin? frames token
  | .valueOrEnd =>
    match token, frames with
    | .punctuator ")", .list (some callee) [] :: outer => some (.after (.call callee []), outer)
    | .punctuator "]", .list none [] :: outer => some (.after (.array []), outer)
    | _, _ => begin? frames token
  | .keyOrEnd =>
    match token, frames with
    | .punctuator "\x7d", .object [] :: outer => some (.after (.object []), outer)
    | _, .object read :: outer => (key? token).map fun key => (.colon, .member read key :: outer)
    | _, _ => none
  | .key =>
    match frames with
    | .object read :: outer => (key? token).map fun key => (.colon, .member read key :: outer)
    | _ => none
  | .colon => if token = .punctuator ":" then some (.value, frames) else none
  | .propertyOf target =>
    match token with
    | .name text => some (.after (.property target text), frames)
    | _ => none
  | .after e => afterStep? e frames token

/-- The expression that tokens make up from where reading stands, and the tokens
behind it. Reading stops where an expression has ended that stands in nothing,
at a token that does not carry it on. -/
def readFrom? (expect : Expect) (frames : List Frame) : List Token → Option (Expr × List Token)
  | [] =>
    match expect, frames with
    | .after e, [] => some (e, [])
    | _, _ => none
  | token :: rest =>
    match step? expect frames token with
    | some (expect, frames) => readFrom? expect frames rest
    | none =>
      match expect, frames with
      | .after e, [] => some (e, token :: rest)
      | _, _ => none

def read? (ts : List Token) : Option (Expr × List Token) := readFrom? .value [] ts

def ofText? (text : String) : Option Expr :=
  match (tokens? text).bind read? with
  | some (e, []) => some e
  | _ => none

/-! ## Tokens read back -/

theorem readFrom?_cons {expect next : Expect} {frames inner : List Frame} {token : Token}
    (h : step? expect frames token = some (next, inner)) (rest : List Token) :
    readFrom? expect frames (token :: rest) = readFrom? next inner rest := by
  rw [readFrom?.eq_def]
  simp only [h]

/-- Tokens no expression begins with: the ends of lists. -/
def endsList (token : Token) : Bool :=
  token = .punctuator ")" || token = .punctuator "]"

theorem tokens_head : ∀ e : Expr, ∃ token rest, e.tokens = token :: rest ∧ endsList token = false
  | .name text => ⟨_, _, rfl, rfl⟩
  | .string value => ⟨_, _, rfl, rfl⟩
  | .numeral value => ⟨_, _, rfl, rfl⟩
  | .template head parts => ⟨_, _, rfl, rfl⟩
  | .array elements => ⟨_, _, rfl, rfl⟩
  | .object members => ⟨_, _, rfl, rfl⟩
  | .property target label => by
      obtain ⟨token, rest, h, hend⟩ := tokens_head target
      exact ⟨token, rest ++ [.punctuator ".", .name label], by rw [tokens, h]; rfl, hend⟩
  | .index target key => by
      obtain ⟨token, rest, h, hend⟩ := tokens_head target
      exact ⟨token, rest ++ .punctuator "[" :: key.tokens ++ [.punctuator "]"],
        by rw [tokens, h]; rfl, hend⟩
  | .call callee arguments => by
      obtain ⟨token, rest, h, hend⟩ := tokens_head callee
      exact ⟨token, rest ++ .punctuator "(" :: listTokens arguments ++ [.punctuator ")"],
        by rw [tokens, h]; rfl, hend⟩

theorem step?_valueOrEnd {token : Token} (h : endsList token = false) (frames : List Frame) :
    step? .valueOrEnd frames token = step? .value frames token := by
  simp only [endsList, Bool.or_eq_false_iff, decide_eq_false_iff_not] at h
  rw [step?.eq_def]
  simp only []
  split
  · exact absurd rfl h.1
  · exact absurd rfl h.2
  · rfl

/-- Where a list may end, an expression is read as where it may not. -/
theorem readFrom?_valueOrEnd (e : Expr) (frames : List Frame) (rest : List Token) :
    readFrom? .valueOrEnd frames (e.tokens ++ rest)
      = readFrom? .value frames (e.tokens ++ rest) := by
  obtain ⟨token, more, h, hend⟩ := tokens_head e
  rw [h, List.cons_append, readFrom?.eq_def]
  conv => rhs; rw [readFrom?.eq_def]
  simp only [step?_valueOrEnd hend]

theorem step?_key (key : Key) (read : List (Key × Expr)) (frames : List Frame) :
    step? .key (.object read :: frames) key.token = some (.colon, .member read key :: frames) := by
  cases key with
  | bare text => rfl
  | quoted value => rfl

theorem step?_keyOrEnd (key : Key) (read : List (Key × Expr)) (frames : List Frame) :
    step? .keyOrEnd (.object read :: frames) key.token
      = some (.colon, .member read key :: frames) := by
  cases key with
  | bare text => rfl
  | quoted value => rfl

def ofList : Option Expr → List Expr → Expr
  | none, elements => .array elements
  | some callee, arguments => .call callee arguments

def listEnd : Option Expr → Token
  | none => .punctuator "]"
  | some _ => .punctuator ")"

mutual

/-- Where a value is expected, the tokens of an expression lead to the state
after it. -/
theorem readFrom?_tokens : ∀ (e : Expr) (frames : List Frame) (rest : List Token),
    readFrom? .value frames (e.tokens ++ rest) = readFrom? (.after e) frames rest
  | .name text, frames, rest => readFrom?_cons rfl rest
  | .string value, frames, rest => readFrom?_cons rfl rest
  | .numeral value, frames, rest => readFrom?_cons rfl rest
  | .template head parts, frames, rest => by
      cases parts with
      | nil => exact readFrom?_cons rfl rest
      | cons part parts =>
          rw [tokens, List.cons_append, List.isEmpty_cons, readFrom?_cons rfl,
            readFrom?_partTokens (part :: parts) (by simp) head [] frames rest]
          rfl
  | .array elements, frames, rest => by
      rw [tokens, List.cons_append, List.cons_append, List.append_assoc, readFrom?_cons rfl]
      exact readFrom?_listTokens elements none frames rest
  | .object members, frames, rest => by
      rw [tokens, List.cons_append, List.cons_append, List.append_assoc, readFrom?_cons rfl]
      cases members with
      | nil => exact readFrom?_cons rfl rest
      | cons m more =>
          obtain ⟨key, e⟩ := m
          simp only [memberTokens, List.cons_append, List.append_assoc]
          rw [readFrom?_cons (step?_keyOrEnd key [] frames), readFrom?_cons rfl,
            readFrom?_tokens e]
          exact readFrom?_moreMemberTokens more e key [] frames rest
  | .property target label, frames, rest => by
      rw [tokens, List.append_assoc, readFrom?_tokens target]
      exact (readFrom?_cons rfl _).trans (readFrom?_cons rfl rest)
  | .index target key, frames, rest => by
      rw [tokens, List.append_assoc, List.append_assoc, readFrom?_tokens target,
        List.cons_append, readFrom?_cons rfl, readFrom?_tokens key]
      exact readFrom?_cons rfl rest
  | .call callee arguments, frames, rest => by
      rw [tokens, List.append_assoc, List.append_assoc, readFrom?_tokens callee,
        List.cons_append, readFrom?_cons rfl]
      exact readFrom?_listTokens arguments (some callee) frames rest

theorem readFrom?_partTokens : ∀ (parts : List (Expr × String)), parts ≠ [] →
    ∀ (head : String) (read : List (Expr × String)) (frames : List Frame) (rest : List Token),
    readFrom? .value (.template head read :: frames) (partTokens parts ++ rest)
      = readFrom? (.after (.template head (read.reverse ++ parts))) frames rest
  | [], h, _, _, _, _ => absurd rfl h
  | (e, text) :: parts, _, head, read, frames, rest => by
      have hpush : read.reverse ++ (e, text) :: parts = ((e, text) :: read).reverse ++ parts := by
        simp
      have hmore := readFrom?_partTokens parts
      rw [partTokens, List.append_assoc, readFrom?_tokens e, hpush]
      cases parts with
      | nil =>
          rw [List.append_nil]
          exact readFrom?_cons rfl rest
      | cons part parts =>
          rw [List.isEmpty_cons, List.cons_append, readFrom?_cons rfl]
          exact hmore (by simp) head ((e, text) :: read) frames rest

theorem readFrom?_listTokens : ∀ (elements : List Expr) (callee : Option Expr)
    (frames : List Frame) (rest : List Token),
    readFrom? .valueOrEnd (.list callee [] :: frames)
        (listTokens elements ++ ([listEnd callee] ++ rest))
      = readFrom? (.after (ofList callee elements)) frames rest
  | [], none, frames, rest => readFrom?_cons rfl rest
  | [], some callee, frames, rest => readFrom?_cons rfl rest
  | e :: elements, callee, frames, rest => by
      rw [listTokens, List.append_assoc, readFrom?_valueOrEnd, readFrom?_tokens e]
      exact readFrom?_moreTokens elements callee e [] frames rest

theorem readFrom?_moreTokens : ∀ (elements : List Expr) (callee : Option Expr) (e : Expr)
    (read : List Expr) (frames : List Frame) (rest : List Token),
    readFrom? (.after e) (.list callee read :: frames)
        (moreTokens elements ++ ([listEnd callee] ++ rest))
      = readFrom? (.after (ofList callee ((e :: read).reverse ++ elements))) frames rest
  | [], none, e, read, frames, rest => by
      rw [List.append_nil]
      exact readFrom?_cons rfl rest
  | [], some callee, e, read, frames, rest => by
      rw [List.append_nil]
      exact readFrom?_cons rfl rest
  | d :: elements, callee, e, read, frames, rest => by
      have hpush : (e :: read).reverse ++ d :: elements
          = (d :: e :: read).reverse ++ elements := by simp
      rw [moreTokens, List.cons_append, List.cons_append, readFrom?_cons rfl,
        List.append_assoc, readFrom?_tokens d, hpush]
      exact readFrom?_moreTokens elements callee d (e :: read) frames rest

theorem readFrom?_moreMemberTokens : ∀ (members : List (Key × Expr)) (e : Expr) (key : Key)
    (read : List (Key × Expr)) (frames : List Frame) (rest : List Token),
    readFrom? (.after e) (.member read key :: frames)
        (moreMemberTokens members ++ ([.punctuator "\x7d"] ++ rest))
      = readFrom? (.after (.object (((key, e) :: read).reverse ++ members))) frames rest
  | [], e, key, read, frames, rest => by
      rw [List.append_nil]
      exact readFrom?_cons rfl rest
  | (next, d) :: members, e, key, read, frames, rest => by
      have hpush : ((key, e) :: read).reverse ++ (next, d) :: members
          = ((next, d) :: (key, e) :: read).reverse ++ members := by simp
      simp only [moreMemberTokens, List.cons_append, List.append_assoc]
      rw [readFrom?_cons rfl, readFrom?_cons (step?_key next _ frames), readFrom?_cons rfl,
        readFrom?_tokens d, hpush]
      exact readFrom?_moreMemberTokens members d next ((key, e) :: read) frames rest

end

def carriesOn (token : Token) : Bool :=
  token = .punctuator "." || token = .punctuator "[" || token = .punctuator "("

/-- The tokens of an expression are read back in front of anything that does not
carry the expression on. -/
theorem read?_tokens {rest : List Token} (h : ∀ token ∈ rest.head?, carriesOn token = false)
    (e : Expr) : read? (e.tokens ++ rest) = some (e, rest) := by
  rw [read?, readFrom?_tokens]
  cases rest with
  | nil => rfl
  | cons token rest =>
      have hnone : step? (.after e) [] token = none := by
        have hc := h token rfl
        simp only [carriesOn, Bool.or_eq_false_iff, decide_eq_false_iff_not] at hc
        obtain ⟨⟨hdot, hindex⟩, hcall⟩ := hc
        simp only [step?, afterStep?]
      simp only [readFrom?, hnone]

/-- Expressions are told apart by their tokens, also in front of others. -/
theorem tokens_append_inj {e d : Expr} {rest more : List Token}
    (hrest : ∀ token ∈ rest.head?, carriesOn token = false)
    (hmore : ∀ token ∈ more.head?, carriesOn token = false)
    (h : e.tokens ++ rest = d.tokens ++ more) : e = d ∧ rest = more := by
  have he := read?_tokens hrest e
  rw [h, read?_tokens hmore d, Option.some.injEq, Prod.mk.injEq] at he
  exact ⟨he.1.symm, he.2.symm⟩

/-- A text with the tokens of an expression is that expression. -/
theorem ofText?_eq {text : String} {e : Expr} (h : tokens? text = some e.tokens) :
    ofText? text = some e := by
  have hread := @read?_tokens [] (by simp) e
  rw [List.append_nil] at hread
  rw [ofText?, h, Option.bind_some, hread]

end Expr

end LoadScript.Ecma
