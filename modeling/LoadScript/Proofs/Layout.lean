import LoadScript.Proofs.Call

/-!
# The two layouts of a call with fields

A form is laid out over several lines inside of a call in one line, a urlencoded
body in one line inside of a call over several lines. Read as tokens the two
calls are the same up to the last argument, which only the second one has: white
space and line breaks are all that the layouts differ in, and inside of a
literal they differ in nothing.

A call ends with its closing parenthesis, so what the two have in common is the
call without that: its open tokens. One more argument puts a comma and its own
tokens behind them (`openTokens_append_singleton`).
-/

namespace LoadScript.Script

open Ecma

/-- The tokens of a call up to the end of its last argument. -/
def openTokens (function : String) (arguments : List Expr) : List Token :=
  [.name "http", .punctuator ".", .name function, .punctuator "("]
    ++ [.punctuator ","].intercalate (arguments.map Expr.tokens)

/-- The tokens of the parameters that say a body is urlencoded. -/
def contentTypeTokens : List Token :=
  [.punctuator "\x7b", .name "headers", .punctuator ":",
    .punctuator "\x7b", .string "Content-Type", .punctuator ":",
    .string "application/x-www-form-urlencoded", .punctuator "\x7d", .punctuator "\x7d"]

theorem intercalate_append_singleton {lists : List (List Token)} (h : lists ≠ []) (mark : Token)
    (last : List Token) :
    [mark].intercalate (lists ++ [last]) = [mark].intercalate lists ++ mark :: last := by
  induction lists with
  | nil => exact absurd rfl h
  | cons first rest ih =>
      cases rest with
      | nil => simp
      | cons next more =>
          rw [List.cons_append, List.intercalate_cons_of_ne_nil (by simp), ih (by simp),
            List.intercalate_cons_cons]
          simp only [List.append_assoc]

theorem openTokens_append_singleton {arguments : List Expr} (h : arguments ≠ [])
    (function : String) (e : Expr) :
    openTokens function (arguments ++ [e])
      = openTokens function arguments ++ .punctuator "," :: e.tokens := by
  have hlists : arguments.map Expr.tokens ≠ [] := by simpa using h
  rw [openTokens, openTokens, List.map_append, List.map_singleton,
    intercalate_append_singleton hlists, List.append_assoc]

/-- Two calls, the first with a form and the second with a urlencoded body, that send the same
fields: one argument more is all that the second one has. -/
structure SameFields (fields : Fields) (form urlencoded : Call) (function : String)
    (leading : List Expr) (members : List (Key × Expr)) : Prop where
  formTokens : tokens? form.render
    = some (openTokens function (leading ++ [.object members]) ++ [.punctuator ")"])
  urlencodedTokens : tokens? urlencoded.render
    = some (openTokens function (leading ++ [.object members])
        ++ .punctuator "," :: contentTypeTokens ++ [.punctuator ")"])
  formExpr : Expr.ofText? form.render
    = some (.call (.property (.name "http") function) (leading ++ [.object members]))
  urlencodedExpr : Expr.ofText? urlencoded.render
    = some (.call (.property (.name "http") function)
        (leading ++ [.object members] ++ [contentTypeExpr]))
  block : tokens? (blockObject "  " (fieldMembers (fieldExprs fields)))
    = some (Expr.object members).tokens
  inline : tokens? (inlineObject (fieldMembers (fieldExprs fields)))
    = some (Expr.object members).tokens
  recorded : (members.map fun m => (m.1.text, some m.2))
    = fields.entries.map fun f => (f.1, Expr.ofText? (TextExpr.parse f.2).render)

section Fields

variable (t : Transaction) (fields : Fields)

abbrev formCall : Call := callOf { t with body := .form fields }

abbrev urlencodedCall : Call := callOf { t with body := .urlencoded fields }

/-- What stands in front of the fields in both calls. -/
def leadingOf : List Expr :=
  (formCall t fields).callee.arguments ++ [(formCall t fields).url.expr]

theorem formCall_expr :
    (formCall t fields).expr
      = .call (.property (.name "http") (formCall t fields).callee.name)
          (leadingOf t fields ++ [fieldsExpr (fieldExprs fields)]) := by
  rw [leadingOf, List.append_assoc]
  rfl

theorem urlencodedCall_expr :
    (urlencodedCall t fields).expr
      = .call (.property (.name "http") (formCall t fields).callee.name)
          (leadingOf t fields ++ [fieldsExpr (fieldExprs fields)] ++ [contentTypeExpr]) := by
  rw [leadingOf, List.append_assoc, List.append_assoc]
  rfl

end Fields

/-- The calls for a form and for a urlencoded body with the same fields are read as the same tokens,
up to the parameters that the second one has behind its fields. -/
theorem sameFields_calls (t : Transaction) (fields : Fields) (h : t.check = .ok ()) :
    ∃ form urlencoded function leading members,
      Call.ofTransaction { t with body := .form fields } = .ok form
        ∧ Call.ofTransaction { t with body := .urlencoded fields } = .ok urlencoded
        ∧ SameFields fields form urlencoded function leading members := by
  have hform := (canonical_callOf { t with body := .form fields }).spells.lexes.tokens?_eq
  have hurlencoded :=
    (canonical_callOf { t with body := .urlencoded fields }).spells.lexes.tokens?_eq
  obtain ⟨hinline, hblock⟩ := spells_fields (canonical_ofBody (.form fields))
  have hclose : ∀ function arguments,
      (Expr.call (.property (.name "http") function) arguments).tokens
        = openTokens function arguments ++ [.punctuator ")"] := call_tokens
  have hparams : contentTypeExpr.tokens = contentTypeTokens := rfl
  refine ⟨formCall t fields, urlencodedCall t fields, (formCall t fields).callee.name,
    leadingOf t fields, (fieldExprs fields).map fun f => (keyOf f.1, f.2.expr),
    ofTransaction_eq_ok h, ofTransaction_eq_ok h, ?_⟩
  exact {
    formTokens := by rw [hform, formCall_expr, hclose]; rfl
    urlencodedTokens := by
      rw [hurlencoded, urlencodedCall_expr, hclose, openTokens_append_singleton (by simp), hparams]
      rfl
    formExpr := by rw [Expr.ofText?_eq hform, formCall_expr]; rfl
    urlencodedExpr := by rw [Expr.ofText?_eq hurlencoded, urlencodedCall_expr]; rfl
    block := hblock.lexes.tokens?_eq
    inline := hinline.lexes.tokens?_eq
    recorded := by
      rw [List.map_map]
      exact fieldExprs_members fields }

/-- A request with blanks, a line break and a marker in its texts. -/
def filing : Transaction where
  name := "file"
  method := " put"
  url := "http://\x7b\x7bhost name\x7d\x7d/a, b"
  headers := OrderedMap.ofList []
  body := .absent

def filingFields : Fields := OrderedMap.ofList [("first key", " a,\n  b "), ("c", "\x7b d\x7d")]

theorem sameFields_calls_filing :
    filing.check = .ok ()
      ∧ ∃ form urlencoded function leading members,
        Call.ofTransaction { filing with body := .form filingFields } = .ok form
          ∧ Call.ofTransaction { filing with body := .urlencoded filingFields } = .ok urlencoded
          ∧ SameFields filingFields form urlencoded function leading members :=
  have hcheck : filing.check = .ok () := rfl
  ⟨hcheck, sameFields_calls filing filingFields hcheck⟩

end LoadScript.Script
