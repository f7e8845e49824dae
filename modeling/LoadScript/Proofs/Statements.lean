import LoadScript.Proofs.Content
import LoadScript.Proofs.Ecma.Statement

/-!
# The statements of a script

Of the statements of a script two kinds are looked for: those that assign to
`res`, and the one that declares variables. They are looked for among all
statements, by their own tokens, and so it has to be shown that no other
statement is taken for one of them. The fixed statements are not, which is a
matter of evaluation; and what is spliced into a script stands inside of an
expression, which has no semicolon to begin a statement with.

The cutting is done once, for whatever is looked for
(`Overlooks.collect_tokens`).
-/

namespace LoadScript.Script

open Ecma

/-- The expressions that the statements of a script assign to `res`. -/
def results (ts : List Token) : List Expr := collect (assigned? "res") ts

/-- The call that a statement which declares variables consists of. -/
def declaration? (statement : List Token) : Option Expr :=
  match Expr.whole? statement with
  | some (.call (.index (.name "postman") (.name "Scope")) arguments) =>
    some (.call (.index (.name "postman") (.name "Scope")) arguments)
  | _ => none

def declarations (ts : List Token) : List Expr := collect declaration? ts

/-! ## Tokens that are whole statements -/

/-- No statement, or statements of which the last one has its semicolon. -/
def Complete (ts : List Token) : Prop :=
  ts.getLast? = none ∨ ts.getLast? = some semicolon

section Complete

variable {α : Type} {find? : List Token → Option α}

/-- Behind whole statements another one begins. -/
theorem Complete.collect_append (hnone : find? [] = none) {ts : List Token} (h : Complete ts)
    (us : List Token) : collect find? (ts ++ us) = collect find? ts ++ collect find? us := by
  have hempty : collect find? [] = [] := by
    rw [collect_of_not_mem List.not_mem_nil, hnone]
    rfl
  rcases h with hnil | hlast
  · rw [List.getLast?_eq_none_iff.1 hnil, hempty, List.nil_append, List.nil_append]
  · obtain ⟨front, rfl⟩ := List.getLast?_eq_some_iff.1 hlast
    rw [List.append_assoc, List.singleton_append, Ecma.collect_append, Ecma.collect_append,
      hempty, List.append_nil]

theorem complete_headTokens (table : Bool) : Complete (headTokens table) := by
  cases table with
  | false => exact Or.inr rfl
  | true => exact Or.inr rfl

theorem complete_rowsTokens (rows : Option RowsUse) : Complete (rowsTokens rows) := by
  match rows with
  | none => exact Or.inl rfl
  | some ⟨path, false⟩ => exact Or.inr rfl
  | some ⟨path, true⟩ => exact Or.inr rfl

theorem complete_symbolsTokens (rows : Bool) : Complete (symbolsTokens rows) := by
  cases rows with
  | false => exact Or.inr rfl
  | true => exact Or.inr rfl

theorem complete_openingTokens (rows : Bool) : Complete (openingTokens rows) := by
  cases rows with
  | false => exact Or.inr rfl
  | true => exact Or.inr rfl

def assignment (call : Call) : List Token :=
  .name "res" :: .punctuator "=" :: call.expr.tokens

theorem semicolon_not_mem_assignment (call : Call) : semicolon ∉ assignment call := by
  simp [assignment, Expr.semicolon_not_mem_tokens]

theorem collect_calls (calls : List Call) (us : List Token) :
    collect find? (calls.flatMap callTokens ++ us)
      = (calls.flatMap fun call => (find? (assignment call)).toList) ++ collect find? us := by
  induction calls with
  | nil => rfl
  | cons call rest ih =>
      have hcall : callTokens call = assignment call ++ [semicolon] := rfl
      rw [List.flatMap_cons, List.flatMap_cons, hcall, List.append_assoc, List.append_assoc,
        List.singleton_append, collect_cons (semicolon_not_mem_assignment call), ih,
        List.append_assoc]

end Complete

/-! ## What is found in a script -/

/-- Nothing is found in the fixed statements of a script. -/
structure Overlooks {α : Type} (find? : List Token → Option α) : Prop where
  empty : find? [] = none
  head : ∀ table, collect find? (headTokens table) = []
  rows : ∀ rows, collect find? (rowsTokens rows) = []
  symbols : ∀ rows, collect find? (symbolsTokens rows) = []
  opening : ∀ rows, collect find? (openingTokens rows) = []
  closing : find? [.punctuator "\x7d"] = none

/-- What is left is found in the scope statement and in the statements for calls. -/
theorem Overlooks.collect_tokens {α : Type} {find? : List Token → Option α}
    (h : Overlooks find?) (script : Script) :
    collect find? script.tokens
      = (find? script.scope.expr.tokens).toList
        ++ script.calls.flatMap fun call => (find? (assignment call)).toList := by
  have hclosing : collect find? [.punctuator "\x7d"] = [] := by
    rw [collect_of_not_mem (by decide), h.closing]
    rfl
  simp only [tokens, List.append_assoc]
  rw [(complete_headTokens _).collect_append h.empty, h.head,
    (complete_rowsTokens _).collect_append h.empty, h.rows,
    (complete_symbolsTokens _).collect_append h.empty, h.symbols, List.singleton_append,
    collect_cons (Expr.semicolon_not_mem_tokens _),
    (complete_openingTokens _).collect_append h.empty, h.opening, collect_calls, hclosing]
  simp only [List.nil_append, List.append_nil]

theorem overlooks_assigned : Overlooks (assigned? "res") where
  empty := rfl
  head table := by cases table <;> rfl
  rows
    | none => rfl
    | some ⟨_, false⟩ => rfl
    | some ⟨_, true⟩ => rfl
  symbols rows := by cases rows <;> rfl
  opening rows := by cases rows <;> rfl
  closing := rfl

theorem overlooks_declaration : Overlooks declaration? where
  empty := rfl
  head table := by cases table <;> rfl
  rows
    | none => rfl
    | some ⟨_, false⟩ => rfl
    | some ⟨_, true⟩ => rfl
  symbols rows := by cases rows <;> rfl
  opening rows := by cases rows <;> rfl
  closing := rfl

/-- The calls of a script, and nothing else, are assigned to `res`. -/
theorem results_tokens (script : Script) : results script.tokens = script.calls.map Call.expr := by
  have hcall : ∀ call : Call, (assigned? "res" (assignment call)).toList = [call.expr] := by
    intro call
    show (Expr.whole? call.expr.tokens).toList = [call.expr]
    rw [Expr.whole?_tokens]
    rfl
  have hscope : assigned? "res" script.scope.expr.tokens = none := by
    rw [Scope.expr, Expr.tokens, Expr.tokens]
    rfl
  rw [results, overlooks_assigned.collect_tokens, hscope, List.map_eq_flatMap]
  simp only [hcall, Option.toList_none, List.nil_append]

/-- One statement of a script declares variables. -/
theorem declarations_tokens (script : Script) :
    declarations script.tokens = [script.scope.expr] := by
  have hcalls : script.calls.flatMap (fun call => (declaration? (assignment call)).toList) = [] :=
    List.flatMap_eq_nil_iff.2 fun _ _ => rfl
  have hscope : declaration? script.scope.expr.tokens = some script.scope.expr := by
    rw [declaration?, Expr.whole?_tokens]
    rfl
  rw [declarations, overlooks_declaration.collect_tokens, hscope, hcalls]
  rfl

end LoadScript.Script
