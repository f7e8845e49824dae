import LoadScript.Proofs.Ecma.Expr

/-!
# Statements of ECMAScript source text

Every statement of a script ends with a semicolon, and an expression has none:
what looks like one in a text stands inside of a literal, which is a token of
its own. So the statements of a script are its tokens cut at the semicolons.
Only the cutting is done here, and what one statement is can be read from its
own tokens (`Expr.whole?`, `assigned?`). The brace at the end of a block begins
the statement behind it.

What is collected from the statements of a text in pieces is collected from the
pieces, wherever a piece ends with a semicolon (`collect_append`).
-/

namespace LoadScript.Ecma

abbrev semicolon : Token := .punctuator ";"

/-- The statements that tokens make up, without their semicolons. -/
def statements (ts : List Token) : List (List Token) := ts.splitOn semicolon

def collect {α : Type} (find? : List Token → Option α) (ts : List Token) : List α :=
  (statements ts).filterMap find?

/-- The expression that tokens are, all of them. -/
def Expr.whole? (ts : List Token) : Option Expr :=
  match Expr.read? ts with
  | some (e, []) => some e
  | _ => none

/-- What a statement assigns to a name. -/
def assigned? (target : String) : List Token → Option Expr
  | .name label :: .punctuator "=" :: value => if label = target then Expr.whole? value else none
  | _ => none

theorem Expr.whole?_tokens (e : Expr) : Expr.whole? e.tokens = some e := by
  have hread := @Expr.read?_tokens [] (by simp) e
  rw [List.append_nil] at hread
  rw [whole?, hread]

/-! ## No expression has a semicolon -/

theorem semicolon_ne_keyToken (key : Key) : semicolon ≠ key.token := by
  cases key with
  | bare name => exact Token.noConfusion
  | quoted value => exact Token.noConfusion

namespace Expr

mutual

theorem semicolon_not_mem_tokens : ∀ e : Expr, semicolon ∉ e.tokens
  | .name text => by simp [tokens]
  | .string value => by simp [tokens]
  | .numeral value => by simp [tokens]
  | .template head parts => by
      simp [tokens, semicolon_not_mem_partTokens parts]
  | .array elements => by simp [tokens, semicolon_not_mem_listTokens elements]
  | .object members => by simp [tokens, semicolon_not_mem_memberTokens members]
  | .property target label => by
      simp [tokens, semicolon_not_mem_tokens target]
  | .index target key => by
      simp [tokens, semicolon_not_mem_tokens target, semicolon_not_mem_tokens key]
  | .call callee arguments => by
      simp [tokens, semicolon_not_mem_tokens callee, semicolon_not_mem_listTokens arguments]

theorem semicolon_not_mem_partTokens :
    ∀ parts : List (Expr × String), semicolon ∉ partTokens parts
  | [] => List.not_mem_nil
  | (e, text) :: rest => by
      simp [partTokens, semicolon_not_mem_tokens e, semicolon_not_mem_partTokens rest]

theorem semicolon_not_mem_listTokens : ∀ elements : List Expr, semicolon ∉ listTokens elements
  | [] => List.not_mem_nil
  | e :: rest => by
      simp [listTokens, semicolon_not_mem_tokens e, semicolon_not_mem_moreTokens rest]

theorem semicolon_not_mem_moreTokens : ∀ elements : List Expr, semicolon ∉ moreTokens elements
  | [] => List.not_mem_nil
  | e :: rest => by
      simp [moreTokens, semicolon_not_mem_tokens e, semicolon_not_mem_moreTokens rest]

theorem semicolon_not_mem_memberTokens :
    ∀ members : List (Key × Expr), semicolon ∉ memberTokens members
  | [] => List.not_mem_nil
  | (key, e) :: rest => by
      simp [memberTokens, semicolon_not_mem_tokens e, semicolon_not_mem_moreMemberTokens rest,
        semicolon_ne_keyToken key]

theorem semicolon_not_mem_moreMemberTokens :
    ∀ members : List (Key × Expr), semicolon ∉ moreMemberTokens members
  | [] => List.not_mem_nil
  | (key, e) :: rest => by
      simp [moreMemberTokens, semicolon_not_mem_tokens e,
        semicolon_not_mem_moreMemberTokens rest, semicolon_ne_keyToken key]

end

end Expr

/-! ## Statements in pieces -/

section Collect

variable {α : Type} {find? : List Token → Option α}

theorem collect_of_not_mem {ts : List Token} (h : semicolon ∉ ts) :
    collect find? ts = (find? ts).toList := by
  rw [collect, statements, List.splitOn_eq_singleton h, List.filterMap_cons, List.filterMap_nil]
  cases find? ts <;> rfl

/-- Tokens that end with a semicolon are statements of their own. -/
theorem collect_append (ts us : List Token) :
    collect find? (ts ++ semicolon :: us) = collect find? ts ++ collect find? us := by
  rw [collect, statements, List.splitOn_append_cons_self, List.filterMap_append]
  rfl

theorem collect_cons {ts : List Token} (h : semicolon ∉ ts) (us : List Token) :
    collect find? (ts ++ semicolon :: us) = (find? ts).toList ++ collect find? us := by
  rw [collect_append, collect_of_not_mem h]

end Collect

end LoadScript.Ecma
