import LoadScript.Proofs.Value

/-!
# The scope statement read back

The declaration of variables is a call with at most one argument, an object with
a member for each origin that declares something. The origins have names of
their own, so what an origin declares can be looked up in the expression
(`Scope.declared?_expr`), and from that the variables are known again
(`entriesOf_eq`): an origin that is left out declares none.
-/

namespace LoadScript.Script

open Ecma

def Declared.text : Declared → String
  | .values vars => blockObject "  " (vars.entries.map fun entry => member entry.1 (valueText entry.2))
  | .rows => rowsName

def Declared.expr : Declared → Expr
  | .values vars => objectOf Prod.fst (fun entry => entry.2.expr) vars.entries
  | .rows => .name rowsName

theorem entryMember_eq (entry : Origin × Declared) :
    Scope.entryMember entry = member entry.1.key entry.2.text := by
  obtain ⟨origin, declared⟩ := entry
  cases declared with
  | values vars => rfl
  | rows => rfl

theorem lexes_declared (declared : Declared) : Lexes declared.text declared.expr.tokens := by
  cases declared with
  | values vars =>
      have hvalue : ∀ entry ∈ vars.entries, Lexes (valueText entry.2) entry.2.expr.tokens :=
        fun entry _ => Json.Value.lexes_valueText entry.2
      exact (spells_blockObject (fun _ => rfl) hvalue).lexes
  | rows => exact lexes_bareName (by decide)

namespace Scope

def object (scope : Scope) : Expr :=
  objectOf (fun entry => entry.1.key) (fun entry => entry.2.expr) scope.entries

def expr (scope : Scope) : Expr :=
  .call (.index (.name "postman") (.name "Scope")) (if scope.isEmpty then [] else [scope.object])

theorem statement_tokens (arguments : List Expr) :
    (Expr.call (.index (.name "postman") (.name "Scope")) arguments).tokens
        ++ [.punctuator ";"]
      = [.name "postman", .punctuator "[", .name "Scope", .punctuator "]", .punctuator "("]
        ++ Expr.listTokens arguments ++ [.punctuator ")", .punctuator ";"] := by
  simp only [Expr.tokens, List.cons_append, List.nil_append, List.append_assoc]

theorem spells_object (scope : Scope) :
    Spells (blockObject "" (scope.entries.map entryMember)) scope.object.tokens := by
  have hmembers : scope.entries.map entryMember
      = scope.entries.map fun entry => member entry.1.key entry.2.text :=
    List.map_congr_left fun entry _ => entryMember_eq entry
  have hdeclared : ∀ entry ∈ scope.entries, Lexes entry.2.text entry.2.expr.tokens :=
    fun entry _ => lexes_declared entry.2
  rw [hmembers]
  exact spells_blockObject Spells.empty hdeclared

theorem spells_render (scope : Scope) :
    Spells scope.render (scope.expr.tokens ++ [.punctuator ";"]) := by
  have hfront : Spells "postman[Scope]("
      [.name "postman", .punctuator "[", .name "Scope", .punctuator "]", .punctuator "("] :=
    .of_feed (by decide +kernel)
  have hback : Spells ");" [.punctuator ")", .punctuator ";"] := .of_feed (by decide +kernel)
  have harguments : Spells
      (if scope.isEmpty then "" else blockObject "" (scope.entries.map entryMember))
      (Expr.listTokens (if scope.isEmpty then [] else [scope.object])) := by
    split
    · exact Spells.empty
    · rw [Expr.listTokens, Expr.moreTokens, List.append_nil]
      exact scope.spells_object
  rw [expr, statement_tokens]
  exact (hfront.append harguments).append hback

/-! ## What is declared -/

/-- What an origin declares, looked up in a declaration of variables. -/
def declared? (origin : Origin) : Expr → Option Expr
  | .call _ [.object members] => (members.find? (·.1.text = origin.key)).map Prod.snd
  | _ => none

theorem key_inj {origin other : Origin} : origin.key = other.key ↔ origin = other := by
  cases origin <;> cases other <;> decide

theorem declared?_expr (scope : Scope) (origin : Origin) :
    declared? origin scope.expr
      = (scope.entries.find? (·.1 = origin)).map fun entry => entry.2.expr := by
  cases hentries : scope.entries with
  | nil => simp [expr, isEmpty, hentries, declared?]
  | cons entry rest =>
      have hfull : scope.isEmpty = false := by simp [isEmpty, hentries]
      rw [expr, hfull, if_neg Bool.false_ne_true, object, objectOf, declared?, List.find?_map,
        ← hentries, Option.map_map]
      simp only [Function.comp_def, keyOf_text, key_inj]

end Scope

def varsOf (sources : Sources) : Origin → Option Variables
  | .global => sources.globals
  | .environment => sources.environment
  | .collection => sources.collection
  | .data => none

/-- The entries of a map; one that is not there has none. -/
def entriesOf : Option Variables → List (String × Json.Value)
  | none => []
  | some vars => vars.entries

theorem declaredValues_eq (origin : Origin) (vars : Option Variables) :
    (entriesOf vars = [] ∧ declaredValues origin vars = [])
      ∨ ∃ m, vars = some m ∧ entriesOf vars ≠ []
          ∧ declaredValues origin vars = [(origin, .values m)] := by
  cases vars with
  | none => exact Or.inl ⟨rfl, rfl⟩
  | some m =>
      cases hm : m.entries with
      | nil => exact Or.inl ⟨hm, by simp [declaredValues, OrderedMap.isEmpty, hm]⟩
      | cons entry rest =>
          exact Or.inr ⟨m, rfl, by simp [entriesOf, hm], by
            simp [declaredValues, OrderedMap.isEmpty, hm]⟩

theorem find?_declaredValues (origin other : Origin) (vars : Option Variables) :
    (declaredValues origin vars).find? (·.1 = other)
      = if origin = other then (declaredValues origin vars).head? else none := by
  rcases declaredValues_eq origin vars with ⟨_, hnone⟩ | ⟨m, _, _, hsome⟩
  · rw [hnone]
    simp
  · rw [hsome]
    by_cases h : origin = other
    · simp [h]
    · simp [h]

theorem find?_declaredRows {origin : Origin} (h : origin ≠ .data) (data : RowSource) :
    (declaredRows data).find? (·.1 = origin) = none := by
  cases data with
  | absent => rfl
  | _ => simp [declaredRows, h.symm]

theorem find?_ofSources (sources : Sources) {origin : Origin} (h : origin ≠ .data) :
    (Scope.ofSources sources).entries.find? (·.1 = origin)
      = (declaredValues origin (varsOf sources origin)).head? := by
  simp only [Scope.ofSources, List.find?_append, find?_declaredValues, find?_declaredRows h]
  cases origin with
  | data => exact absurd rfl h
  | _ => simp [varsOf]

/-- The variables of an origin, as an object; none if there are no variables. -/
theorem declared?_ofSources (sources : Sources) {origin : Origin} (h : origin ≠ .data) :
    Scope.declared? origin (Scope.ofSources sources).expr
      = if entriesOf (varsOf sources origin) = [] then none
        else some (objectOf Prod.fst (fun entry => entry.2.expr)
          (entriesOf (varsOf sources origin))) := by
  rw [Scope.declared?_expr, find?_ofSources sources h]
  rcases declaredValues_eq origin (varsOf sources origin) with ⟨hempty, hnone⟩ | ⟨m, hm, hfull, hsome⟩
  · rw [hnone, if_pos hempty]
    rfl
  · rw [hsome, if_neg hfull, hm]
    rfl

/-- Equal declarations of variables declare equal variables. -/
theorem entriesOf_eq {sources others : Sources}
    (h : (Scope.ofSources sources).expr = (Scope.ofSources others).expr) {origin : Origin}
    (horigin : origin ≠ .data) :
    entriesOf (varsOf sources origin) = entriesOf (varsOf others origin) := by
  have hdeclared := declared?_ofSources sources horigin
  rw [h, declared?_ofSources others horigin] at hdeclared
  split at hdeclared
  · next hempty =>
      split at hdeclared
      · next hempty' => rw [hempty, hempty']
      · exact absurd hdeclared (by simp)
  · split at hdeclared
    · exact absurd hdeclared (by simp)
    · refine (objectOf_inj ?_ (Option.some.inj hdeclared)).symm
      intro x y hname hvalue
      exact Prod.ext hname (Json.Value.expr_inj hvalue)

end LoadScript.Script
