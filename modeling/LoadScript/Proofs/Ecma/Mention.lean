import LoadScript.Proofs.Ecma.Statement

/-!
# The identifiers of ECMAScript source text

A name in source text is a word of the grammar, the name of a property or an
identifier, and an identifier is declared where it stands or refers to what has
been declared elsewhere. The tokens beside a name tell which of these it is, so
the identifiers of a text are found in one pass over its tokens (`mentions`).
Texts in literals are no names: a literal or a chunk of one is a single token.

Declarations are known that have one name behind a word, as in `const x` or
`import x from`; parameters, patterns and imports in braces would be taken for
references. A name before a colon is taken for a property behind a brace or a
comma, which is right wherever there is no conditional operator.

Texts are looked through in pieces: a piece that begins with a separating token
does not matter to the names before it, nor do these to the piece
(`mentionsFrom_append`). An expression declares nothing, and what it refers to
follows its structure (`Expr.mentionsFrom_tokens`).
-/

namespace LoadScript.Ecma

/-- The words that are no identifiers anywhere. -/
def reserved : List String :=
  ["await", "break", "case", "catch", "class", "const", "continue", "debugger", "default",
   "delete", "do", "else", "enum", "export", "extends", "false", "finally", "for", "function",
   "if", "import", "in", "instanceof", "let", "new", "null", "return", "super", "switch", "this",
   "throw", "true", "try", "typeof", "var", "void", "while", "with", "yield"]

def declarators : List String := ["class", "const", "function", "import", "let", "var"]

inductive Mention where
  | declares (word name : String)
  | refers (name : String)
  deriving DecidableEq, Repr

def Mention.declared? : Mention → Option String
  | declares _ name => some name
  | refers _ => none

/-- Whether a name is the `from` of an import, before the string it imports from. -/
def isFrom (text : String) : Option Token → Bool
  | some (.string _) => text = "from"
  | _ => false

/-- Whether a name between two tokens is that of a property. -/
def namesProperty (before : Token) (after : Option Token) : Bool :=
  before = .punctuator "." ||
    (after = some (.punctuator ":") && (before = .punctuator "\x7b" || before = .punctuator ","))

def Mention.behind (before : Token) (text : String) : Mention :=
  match before with
  | .name word => if declarators.contains word then declares word text else refers text
  | _ => refers text

/-- The identifier that a token between two others is, if it is one. -/
def mention? (before token : Token) (after : Option Token) : Option Mention :=
  match token with
  | .name text =>
    if namesProperty before after || reserved.contains text || isFrom text after then none
    else some (.behind before text)
  | _ => none

def mentionsFrom (before : Token) : List Token → List Mention
  | [] => []
  | token :: rest => (mention? before token rest.head?).toList ++ mentionsFrom token rest

def mentions (ts : List Token) : List Mention := mentionsFrom semicolon ts

/-- `const f = x.y` declares a name and refers to one. The third is the name of a property. -/
example : mentions [.name "const", .name "f", .punctuator "=", .name "x", .punctuator ".",
    .name "y"] = [.declares "const" "f", .refers "x"] := by
  decide

def declaredIn (ms : List Mention) : List String := ms.filterMap Mention.declared?

def declared (ts : List Token) : List String := declaredIn (mentions ts)

section Bound

variable {known names : List String} {ms front back : List Mention} {name : String}

end Bound

/-! ## Texts in pieces -/

/-- Tokens that end a name before them and tell nothing of it. -/
def Token.separates : Token → Bool
  | .punctuator mark => mark ≠ ":"
  | .chunk _ _ _ => true
  | _ => false

def separated : List Token → Bool
  | [] => true
  | token :: _ => token.separates

variable {ts us : List Token}

/-- Behind a separating token it does not matter what stands before it. -/
theorem mentionsFrom_eq_mentions (h : separated us = true) (before : Token) :
    mentionsFrom before us = mentions us := by
  match us with
  | [] => rfl
  | .punctuator _ :: _ => rfl
  | .chunk _ _ _ :: _ => rfl
  | .name _ :: _ => exact absurd h Bool.false_ne_true
  | .numeral _ :: _ => exact absurd h Bool.false_ne_true
  | .string _ :: _ => exact absurd h Bool.false_ne_true

/-- A separating token tells no more of a name before it than the end of a text. -/
theorem mention?_of_separated (h : separated us = true) (before token : Token) :
    mention? before token us.head? = mention? before token none := by
  have hfrom : ∀ text, isFrom text us.head? = isFrom text none := by
    intro text
    match us with
    | [] => rfl
    | .punctuator _ :: _ => rfl
    | .chunk _ _ _ :: _ => rfl
    | .name _ :: _ => rfl
    | .numeral _ :: _ => rfl
    | .string _ :: _ => exact absurd h Bool.false_ne_true
  have hcolon : us.head? ≠ some (.punctuator ":") := by
    match us with
    | [] => exact nofun
    | token :: rest =>
        rintro ⟨⟩
        exact absurd (show decide (":" ≠ ":") = true from h) (by decide)
  have hproperty : namesProperty before us.head? = namesProperty before none := by
    simp [namesProperty, hcolon]
  cases token with
  | name text => rw [mention?, mention?, hproperty, hfrom]
  | _ => rfl

theorem mentionsFrom_append (h : separated us = true) (before : Token) :
    mentionsFrom before (ts ++ us) = mentionsFrom before ts ++ mentions us := by
  induction ts generalizing before with
  | nil => exact mentionsFrom_eq_mentions h before
  | cons token rest ih =>
      have hmention : mention? before token (rest ++ us).head?
          = mention? before token rest.head? := by
        cases rest with
        | nil => exact mention?_of_separated h before token
        | cons next rest => rfl
      rw [List.cons_append, mentionsFrom, mentionsFrom, hmention, ih, List.append_assoc]

namespace Expr

def referencesOf (text : String) : List String := if reserved.contains text then [] else [text]

mutual

def references : Expr → List String
  | .name text => referencesOf text
  | .string _ => []
  | .numeral _ => []
  | .template _ parts => partReferences parts
  | .array elements => listReferences elements
  | .object members => memberReferences members
  | .property target _ => target.references
  | .index target key => target.references ++ key.references
  | .call callee arguments => callee.references ++ listReferences arguments
  termination_by structural e => e

def partReferences : List (Expr × String) → List String
  | [] => []
  | (e, _) :: rest => e.references ++ partReferences rest
  termination_by structural parts => parts

def listReferences : List Expr → List String
  | [] => []
  | e :: rest => e.references ++ listReferences rest
  termination_by structural elements => elements

def memberReferences : List (Key × Expr) → List String
  | [] => []
  | (_, e) :: rest => e.references ++ memberReferences rest
  termination_by structural members => members

end

/-- Tokens behind which an expression begins. -/
def introduces : Token → Bool
  | .punctuator mark => mark ≠ "."
  | .chunk _ _ _ => true
  | _ => false

theorem mentionsFrom_name {before : Token} (h : introduces before = true) (text : String) :
    mentionsFrom before [.name text] = (referencesOf text).map .refers := by
  have hdot : before ≠ .punctuator "." := by
    rintro rfl
    exact absurd h (by decide)
  have hbehind : Mention.behind before text = .refers text := by
    cases before with
    | name word => exact absurd h Bool.false_ne_true
    | _ => rfl
  have hproperty : namesProperty before none = false := by simp [namesProperty, hdot]
  have hfrom : isFrom text none = false := rfl
  rw [mentionsFrom, List.head?_nil, mention?, hproperty, hfrom, Bool.false_or, Bool.or_false,
    hbehind, referencesOf]
  split
  · rfl
  · rfl

/-- The name of a member is no identifier. -/
theorem mentionsFrom_key {before : Token}
    (h : before = .punctuator "\x7b" ∨ before = .punctuator ",") (key : Key) (rest : List Token) :
    mentionsFrom before (key.token :: .punctuator ":" :: rest)
      = mentionsFrom (.punctuator ":") rest := by
  have hmention : mention? before key.token (some (.punctuator ":")) = none := by
    cases key with
    | bare name =>
        rcases h with rfl | rfl
        · rfl
        · rfl
    | quoted value => rfl
  rw [mentionsFrom, List.head?_cons, hmention]
  rfl

theorem separated_moreTokens (elements : List Expr) : separated (moreTokens elements) = true := by
  cases elements with
  | nil => rfl
  | cons e rest => rfl

theorem separated_moreMemberTokens (members : List (Key × Expr)) :
    separated (moreMemberTokens members) = true := by
  cases members with
  | nil => rfl
  | cons member rest => rfl

mutual

/-- In the tokens of an expression what it refers to is found, and nothing else. -/
theorem mentionsFrom_tokens : ∀ (e : Expr) {before : Token}, introduces before = true →
    mentionsFrom before e.tokens = e.references.map .refers
  | .name text, before, h => mentionsFrom_name h text
  | .string value, before, h => rfl
  | .numeral value, before, h => rfl
  | .template head parts, before, h => mentionsFrom_partTokens parts rfl
  | .array elements, before, h => by
      rw [tokens, mentionsFrom_append rfl]
      exact (List.append_nil _).trans (mentionsFrom_listTokens elements rfl)
  | .object members, before, h => by
      rw [tokens, mentionsFrom_append rfl]
      exact (List.append_nil _).trans (mentionsFrom_memberTokens members)
  | .property target label, before, h => by
      rw [tokens, mentionsFrom_append rfl]
      exact (List.append_nil _).trans (mentionsFrom_tokens target h)
  | .index target key, before, h => by
      have hkey : mentionsFrom (.punctuator "[") key.tokens = key.references.map .refers :=
        mentionsFrom_tokens key rfl
      rw [tokens, mentionsFrom_append rfl, mentionsFrom_append rfl, mentionsFrom_tokens target h,
        references, List.map_append, ← hkey]
      exact List.append_nil _
  | .call callee arguments, before, h => by
      have harguments : mentionsFrom (.punctuator "(") (listTokens arguments)
          = (listReferences arguments).map .refers := mentionsFrom_listTokens arguments rfl
      rw [tokens, mentionsFrom_append rfl, mentionsFrom_append rfl, mentionsFrom_tokens callee h,
        references, List.map_append, ← harguments]
      exact List.append_nil _

theorem mentionsFrom_partTokens : ∀ (parts : List (Expr × String)) {before : Token},
    introduces before = true →
    mentionsFrom before (partTokens parts) = (partReferences parts).map .refers
  | [], before, h => rfl
  | (e, text) :: parts, before, h => by
      rw [partTokens, mentionsFrom_append rfl, mentionsFrom_tokens e h, partReferences,
        List.map_append]
      exact congrArg _ (mentionsFrom_partTokens parts rfl)

theorem mentionsFrom_listTokens : ∀ (elements : List Expr) {before : Token},
    introduces before = true →
    mentionsFrom before (listTokens elements) = (listReferences elements).map .refers
  | [], before, h => rfl
  | e :: elements, before, h => by
      rw [listTokens, mentionsFrom_append (separated_moreTokens elements), mentionsFrom_tokens e h,
        mentions_moreTokens elements, listReferences, List.map_append]

theorem mentions_moreTokens : ∀ elements : List Expr,
    mentions (moreTokens elements) = (listReferences elements).map .refers
  | [] => rfl
  | e :: elements => by
      rw [moreTokens, mentions, mentionsFrom_append (separated_moreTokens elements),
        mentions_moreTokens elements, listReferences, List.map_append]
      exact congrArg (· ++ _) (mentionsFrom_tokens e rfl)

theorem mentionsFrom_memberTokens : ∀ members : List (Key × Expr),
    mentionsFrom (.punctuator "\x7b") (memberTokens members)
      = (memberReferences members).map .refers
  | [] => rfl
  | (key, e) :: members => by
      rw [memberTokens, mentionsFrom_append (separated_moreMemberTokens members),
        mentionsFrom_key (Or.inl rfl), mentionsFrom_tokens e rfl, mentions_moreMemberTokens members,
        memberReferences, List.map_append]

theorem mentions_moreMemberTokens : ∀ members : List (Key × Expr),
    mentions (moreMemberTokens members) = (memberReferences members).map .refers
  | [] => rfl
  | (key, e) :: members => by
      have hmember : mentionsFrom (.punctuator ",") (key.token :: .punctuator ":" :: e.tokens)
          = e.references.map .refers :=
        (mentionsFrom_key (Or.inr rfl) key _).trans (mentionsFrom_tokens e rfl)
      rw [moreMemberTokens, mentions, mentionsFrom_append (separated_moreMemberTokens members),
        mentions_moreMemberTokens members, memberReferences, List.map_append, ← hmember]
      rfl

end

end Expr

end LoadScript.Ecma
