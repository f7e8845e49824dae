import LoadScript.Proofs.Call
import LoadScript.Proofs.Ecma.Initialiser
import LoadScript.Proofs.Names
import LoadScript.Proofs.Scope

/-!
# What the objects of a script are at run time

Forms, variables and the JSON values in them are written as object literals, and
here those literals are evaluated. A JSON value describes a value of ECMAScript
in the obvious way, number by number and member by member (`described`). What its
text evaluates to is that value with one exception (`built`): in no object, at
whatever depth, does a member `__proto__` become a property.

The two are one traversal of the value with different ideas of what an object
is, so what is proved of the texts of values is proved once
(`evaluate?_expr`), and the two agree exactly on values without the name
(`built_eq_described_iff`). Forms and the variables of an origin are objects with
members of their own and come to the same.
-/

namespace LoadScript.Json

open Ecma

/-- The number that a number of a document is at run time: integers beyond the
precision of a double are rounded. -/
def Number.numVal : Number → NumVal
  | .integer value _ => .nearest (value < 0) ⟨value.natAbs, 0⟩
  | .real x => .finite x

namespace Value

mutual

/-- A value at run time, where `object` is what the members of an object make. -/
def asVal (object : List (String × Val) → Val) : Value → Val
  | .null => .null
  | .bool value => .bool value
  | .number value => .number value.numVal
  | .string value => .string value
  | .array elements => .array (elementVals object elements)
  | .object members => object (memberVals object members)
  termination_by structural value => value

def elementVals (object : List (String × Val) → Val) : List Value → List Val
  | [] => []
  | value :: rest => asVal object value :: elementVals object rest
  termination_by structural values => values

def memberVals (object : List (String × Val) → Val) : List (String × Value) → List (String × Val)
  | [] => []
  | (label, value) :: rest => (label, asVal object value) :: memberVals object rest
  termination_by structural members => members

end

/-- The value that a JSON value describes: objects have exactly its members. -/
def described (value : Value) : Val := value.asVal (.object none)

/-- The value that the text of a JSON value is evaluated to. -/
def built (value : Value) : Val := value.asVal .ofDefinitions

/-- In no object is there the name `__proto__`. -/
def Plain (value : Value) : Prop := value.Everywhere (protoName ∉ ·)

theorem memberVals_eq_map (object : List (String × Val) → Val) (members : List (String × Value)) :
    memberVals object members = members.map fun m => (m.1, m.2.asVal object) := by
  induction members with
  | nil => rfl
  | cons m rest ih =>
      obtain ⟨label, value⟩ := m
      rw [memberVals, List.map_cons, ih]

theorem map_fst_memberVals (object : List (String × Val) → Val)
    (members : List (String × Value)) :
    (memberVals object members).map Prod.fst = members.map Prod.fst := by
  rw [memberVals_eq_map, List.map_map]
  rfl

mutual

/-- What is described is built, unless something is to be called `__proto__`. -/
theorem built_eq_described_iff : ∀ value : Value, value.built = value.described ↔ value.Plain
  | .null => by simp [built, described, asVal, Plain, Everywhere]
  | .bool value => by simp [built, described, asVal, Plain, Everywhere]
  | .number value => by simp [built, described, asVal, Plain, Everywhere]
  | .string value => by simp [built, described, asVal, Plain, Everywhere]
  | .array elements => by
      rw [built, described, asVal, asVal, Val.array.injEq, Plain, Everywhere]
      exact elementVals_eq_iff elements
  | .object members => by
      have hnames : (memberVals .ofDefinitions members).map Prod.fst
          = (memberVals (.object none) members).map Prod.fst := by
        rw [map_fst_memberVals, map_fst_memberVals]
      rw [built, described, asVal, asVal, ofDefinitions_eq_iff hnames, map_fst_memberVals,
        memberVals_eq_iff members]
      exact Iff.rfl

theorem elementVals_eq_iff : ∀ elements : List Value,
    elementVals .ofDefinitions elements = elementVals (.object none) elements ↔
      EverywhereIn (protoName ∉ ·) elements
  | [] => by simp [elementVals, EverywhereIn]
  | value :: rest => by
      rw [elementVals, elementVals, List.cons.injEq, elementVals_eq_iff rest, EverywhereIn]
      exact and_congr_left' (built_eq_described_iff value)

theorem memberVals_eq_iff : ∀ members : List (String × Value),
    memberVals .ofDefinitions members = memberVals (.object none) members ↔
      EverywhereUnder (protoName ∉ ·) members
  | [] => by simp [memberVals, EverywhereUnder]
  | (label, value) :: rest => by
      rw [memberVals, memberVals, List.cons.injEq, memberVals_eq_iff rest, EverywhereUnder,
        Prod.mk.injEq]
      have hvalue := built_eq_described_iff value
      constructor
      · rintro ⟨⟨-, h⟩, hrest⟩
        exact ⟨hvalue.1 h, hrest⟩
      · rintro ⟨h, hrest⟩
        exact ⟨⟨rfl, hvalue.2 h⟩, hrest⟩

end

end Value

def Numeral.numVal (n : Numeral) : NumVal := .nearest n.negative n.decimal

theorem numVal_numeral (n : Number) : n.numeral.numVal = n.numVal := by
  cases n with
  | integer value inRange =>
      cases value with
      | ofNat n =>
          have hsign : ¬ (Int.ofNat n < 0) := Int.not_lt.2 (Int.natCast_nonneg n)
          rw [Number.numeral, integerNumeral, Numeral.numVal, Numeral.decimal, Number.numVal,
            decide_eq_false hsign]
          simp [digitsValue_toDigits]
      | negSucc n =>
          have hsign : Int.negSucc n < 0 := Int.negSucc_lt_zero n
          rw [Number.numeral, integerNumeral, Numeral.numVal, Numeral.decimal, Number.numVal,
            decide_eq_true hsign]
          simp [digitsValue_toDigits]
  | real x =>
      rw [Number.numeral, Numeral.numVal, Decimal.numeral_negative, NumVal.nearest, ofDecimal?_numeral]
      rfl

end LoadScript.Json

namespace LoadScript.Script

open Ecma Json

/-! ## Evaluation -/

mutual

/-- What a literal is evaluated to, where each variable has a value. Names of
variables and calls outside of templates are not evaluated. -/
def evaluate? (value : String → String) : Expr → Option Val
  | .name "null" => some .null
  | .name "true" => some (.bool true)
  | .name "false" => some (.bool false)
  | .numeral n => some (.number n.numVal)
  | .string text => some (.string text)
  | .template head parts => (eval? value (.template head parts)).map .string
  | .array elements => (evaluateAll? value elements).map .array
  | .object members => (definitions? value members).bind initialise?
  | _ => none
  termination_by structural e => e

def evaluateAll? (value : String → String) : List Expr → Option (List Val)
  | [] => some []
  | e :: rest => do
    let first ← evaluate? value e
    let more ← evaluateAll? value rest
    some (first :: more)
  termination_by structural elements => elements

def definitions? (value : String → String) : List (Key × Expr) → Option (List (String × Val))
  | [] => some []
  | (key, e) :: rest => do
    let first ← evaluate? value e
    let more ← definitions? value rest
    some ((key.text, first) :: more)
  termination_by structural members => members

end

def evaluateText? (value : String → String) (text : String) : Option Val :=
  (Expr.ofText? text).bind (evaluate? value)

section

variable (value : String → String)

mutual

/-- JSON values without repeated names are built. -/
theorem evaluate?_expr : ∀ v : Value, v.Distinct → evaluate? value v.expr = some v.built
  | .null, _ => rfl
  | .bool true, _ => rfl
  | .bool false, _ => rfl
  | .number n, _ => by
      rw [Value.expr, evaluate?, numVal_numeral]
      rfl
  | .string text, _ => rfl
  | .array elements, h => by
      rw [Value.expr, evaluate?, evaluateAll?_exprs elements h]
      rfl
  | .object members, h => by
      have hnames : ((Value.memberVals .ofDefinitions members).map Prod.fst).Nodup := by
        rw [Value.map_fst_memberVals]
        exact h.1
      rw [Value.expr, evaluate?, definitions?_exprs members h.2, Option.bind_some,
        initialise?_of_nodup hnames]
      rfl

theorem evaluateAll?_exprs : ∀ elements : List Value, Value.EverywhereIn List.Nodup elements →
    evaluateAll? value (Value.elementExprs elements)
      = some (Value.elementVals .ofDefinitions elements)
  | [], _ => rfl
  | v :: rest, h => by
      rw [Value.elementExprs, evaluateAll?, evaluate?_expr v h.1, evaluateAll?_exprs rest h.2]
      rfl

theorem definitions?_exprs : ∀ members : List (String × Value),
    Value.EverywhereUnder List.Nodup members →
    definitions? value (Value.memberExprs members)
      = some (Value.memberVals .ofDefinitions members)
  | [], _ => rfl
  | (label, v) :: rest, h => by
      rw [Value.memberExprs, definitions?, evaluate?_expr v h.1, definitions?_exprs rest h.2]
      rfl

end

/-- Text expressions are evaluated to the text with its markers replaced. -/
theorem evaluate?_textExpr (text : String) :
    evaluate? value (TextExpr.parse text).expr
      = some (.string (String.ofList (fill value (segments text.toList)))) := by
  have hfilled := eval?_expr value text
  cases hparse : TextExpr.parse text with
  | plain inner =>
      rw [hparse] at hfilled
      exact congrArg (Option.map Val.string) hfilled
  | template segments =>
      rw [hparse] at hfilled
      rw [TextExpr.expr, evaluate?]
      exact congrArg (Option.map Val.string) hfilled

/-- An object with members of their own names is made of their values. -/
theorem evaluate?_objectOf {α : Type} {name : α → String} {expr : α → Expr} {val : α → Val}
    {xs : List α} (hnames : (xs.map name).Nodup)
    (h : ∀ x ∈ xs, evaluate? value (expr x) = some (val x)) :
    evaluate? value (objectOf name expr xs)
      = some (.ofDefinitions (xs.map fun x => (name x, val x))) := by
  have hdefinitions : definitions? value (xs.map fun x => (keyOf (name x), expr x))
      = some (xs.map fun x => (name x, val x)) := by
    -- that the names differ matters for the object, and not for what it is made from
    clear hnames
    induction xs with
    | nil => rfl
    | cons x rest ih =>
        have hrest := ih fun y hy => h y (List.mem_cons_of_mem x hy)
        rw [List.map_cons, definitions?, h x List.mem_cons_self, hrest, keyOf_text]
        rfl
  have hkeys : ((xs.map fun x => (name x, val x)).map Prod.fst).Nodup := by
    rw [List.map_map]
    exact hnames
  rw [objectOf, evaluate?, hdefinitions, Option.bind_some, initialise?_of_nodup hkeys]

/-! ## Forms -/

def filledFields (fields : Fields) : List (String × Val) :=
  fields.entries.map fun field =>
    (field.1, .string (String.ofList (fill value (segments field.2.toList))))

/-- The texts of a form, in one line and with a line for each field. -/
def formTexts (fields : Fields) : List String :=
  [inlineObject (fieldMembers (fieldExprs fields)),
    blockObject "  " (fieldMembers (fieldExprs fields))]

theorem evaluateText?_form (fields : Fields) {text : String} (h : text ∈ formTexts fields) :
    evaluateText? value text = some (.ofDefinitions (filledFields value fields)) := by
  have hcanonical : ∀ field ∈ fieldExprs fields, field.2.Canonical :=
    canonical_ofBody (.form fields)
  have hspells : Spells text (fieldsExpr (fieldExprs fields)).tokens := by
    obtain ⟨hinline, hblock⟩ := spells_fields hcanonical
    rcases List.mem_pair.1 h with rfl | rfl
    · exact hinline
    · exact hblock
  rw [evaluateText?, Expr.ofText?_eq hspells.lexes.tokens?_eq, Option.bind_some,
    fieldsExpr_fieldExprs]
  exact evaluate?_objectOf value fields.nodup fun field _ => evaluate?_textExpr value field.2

/-! ## Variables -/

theorem evaluateText?_values (vars : Variables) (h : (Value.object vars.entries).Distinct) :
    evaluateText? value (Declared.values vars).text
      = some (Value.object vars.entries).built := by
  have hread := Expr.ofText?_eq (lexes_declared (.values vars)).tokens?_eq
  have hvalues : ∀ entry ∈ vars.entries, evaluate? value entry.2.expr = some entry.2.built :=
    fun entry hentry => evaluate?_expr value entry.2 (Value.everywhereUnder_iff.1 h.2 entry hentry)
  rw [evaluateText?, hread, Option.bind_some, Declared.expr,
    evaluate?_objectOf value vars.nodup hvalues, Value.built, Value.asVal, Value.memberVals_eq_map]
  rfl

/-- The object literals of a script make objects with the fields of a form, and
with the variables of an origin, but for what is called `__proto__`: that is no
property of the object, and no member of an object in the value of a variable.
So all is there exactly if nothing has that name. -/
theorem evaluateText?_literals :
    (∀ fields : Fields, ∀ text ∈ formTexts fields, ∃ prototype own,
      evaluateText? value text = some (.object prototype own)
        ∧ own = properties (filledFields value fields)
        ∧ (own = filledFields value fields ↔ protoName ∉ fields.keys))
    ∧ ∀ vars : Variables, (Value.object vars.entries).Distinct → ∃ prototype own,
      evaluateText? value (Declared.values vars).text = some (.object prototype own)
        ∧ own = properties (vars.entries.map fun entry => (entry.1, entry.2.built))
        ∧ (own = (vars.entries.map fun entry => (entry.1, entry.2.described)) ↔
            (Value.object vars.entries).Plain) := by
  constructor
  · intro fields text htext
    have hnames : (filledFields value fields).map Prod.fst = fields.keys := by
      rw [filledFields, List.map_map]
      rfl
    refine ⟨_, _, evaluateText?_form value fields htext, rfl, ?_⟩
    rw [properties_eq_self, hnames]
  · intro vars hdistinct
    refine ⟨_, _, evaluateText?_values value vars hdistinct, ?_, ?_⟩
    · rw [Value.memberVals_eq_map]
      rfl
    · have hdescribed : (vars.entries.map fun entry => (entry.1, entry.2.described))
          = Value.memberVals (.object none) vars.entries := by
        rw [Value.memberVals_eq_map]
        rfl
      have hnames : (Value.memberVals .ofDefinitions vars.entries).map Prod.fst
          = (Value.memberVals (.object none) vars.entries).map Prod.fst := by
        rw [Value.map_fst_memberVals, Value.map_fst_memberVals]
      rw [hdescribed, properties_eq_iff hnames, Value.map_fst_memberVals,
        Value.memberVals_eq_iff]
      exact Iff.rfl

end

def account : Variables := OrderedMap.ofList
  [("user", .object [("id", .number (.integer 7 (by decide))), ("tags", .array [.string "a", .null])])]

theorem evaluateText?_literals_account :
    (Value.object account.entries).Distinct
    ∧ (∀ fields : Fields, ∀ text ∈ formTexts fields, ∃ prototype own,
      evaluateText? id text = some (.object prototype own)
        ∧ own = properties (filledFields id fields)
        ∧ (own = filledFields id fields ↔ protoName ∉ fields.keys))
    ∧ ∃ prototype own, evaluateText? id (Declared.values account).text = some (.object prototype own)
        ∧ own = properties (account.entries.map fun entry => (entry.1, entry.2.built))
        ∧ (own = (account.entries.map fun entry => (entry.1, entry.2.described)) ↔
            (Value.object account.entries).Plain) := by
  have hdistinct : (Value.object account.entries).Distinct :=
    ⟨by decide, ⟨by decide, trivial, ⟨trivial, trivial, trivial⟩, trivial⟩, trivial⟩
  exact ⟨hdistinct, (evaluateText?_literals id).1, (evaluateText?_literals id).2 account hdistinct⟩

/-- A variable of the name `__proto__`, and another one. -/
def inherited : Variables := OrderedMap.ofList
  [("__proto__", .object [("id", .string "7")]), ("user", .string "a")]

/-- The field is lost, and the variable becomes the prototype of the object. -/
theorem evaluateText?_literals_proto :
    evaluateText? id (inlineObject (fieldMembers (fieldExprs (OrderedMap.ofList
        [("__proto__", "x")]))))
      = some (.object none [])
    ∧ evaluateText? id (Declared.values inherited).text
      = some (.object (some (.object none [("id", .string "7")])) [("user", .string "a")]) := by
  have hdistinct : (Value.object inherited.entries).Distinct :=
    ⟨by decide, ⟨by decide, trivial, trivial⟩, trivial, trivial⟩
  constructor
  · rw [evaluateText?_form id _ List.mem_cons_self]
    rfl
  · rw [evaluateText?_values id inherited hdistinct]
    rfl

end LoadScript.Script
