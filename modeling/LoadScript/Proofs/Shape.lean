import LoadScript.Proofs.Content

/-!
# Inputs of the same shape

Two inputs have the same shape when a reader who sees neither the texts nor the
numbers in them cannot tell one from the other: as many requests, the same
functions, bodies and data files of the same kinds, markers in the same places,
names that are all written bare or all quoted, and values of the same structure.
What the theorems of `Outline.lean` say is that then the scripts cannot be told
apart either, by such a reader.
-/

namespace LoadScript.Script

open Json (Value)

mutual

/-- Values of the same constructors, nested alike and with as many members. -/
inductive SameStructure : Value → Value → Prop where
  | null : SameStructure .null .null
  | bool (a b : Bool) : SameStructure (.bool a) (.bool b)
  | number (m n : Json.Number) : SameStructure (.number m) (.number n)
  | string (s t : String) : SameStructure (.string s) (.string t)
  | array {elements others : List Value} (h : SameElements elements others) :
      SameStructure (.array elements) (.array others)
  | object {members others : List (String × Value)} (h : SameMembers members others) :
      SameStructure (.object members) (.object others)

@[inherit_doc SameStructure]
inductive SameElements : List Value → List Value → Prop where
  | nil : SameElements [] []
  | cons {value other : Value} {rest others : List Value} (h : SameStructure value other)
      (hrest : SameElements rest others) : SameElements (value :: rest) (other :: others)

@[inherit_doc SameStructure]
inductive SameMembers : List (String × Value) → List (String × Value) → Prop where
  | nil : SameMembers [] []
  | cons (label name : String) {value other : Value} {rest others : List (String × Value)}
      (h : SameStructure value other) (hrest : SameMembers rest others) :
      SameMembers ((label, value) :: rest) ((name, other) :: others)

end

/-- Names that are written in the same way, bare or quoted. -/
def SameForm (name other : String) : Prop := isBareName name.toList = isBareName other.toList

instance (name other : String) : Decidable (SameForm name other) :=
  inferInstanceAs (Decidable (_ = _))

/-- Texts with the same pattern of literals and references. -/
def SamePattern : TextExpr → TextExpr → Prop
  | .plain _, .plain _ => True
  | .template segments, .template others =>
    segments.map Segment.isReference = others.map Segment.isReference
  | _, _ => False

instance (e d : TextExpr) : Decidable (SamePattern e d) :=
  match e, d with
  | .plain _, .plain _ => inferInstanceAs (Decidable True)
  | .template segments, .template others =>
    inferInstanceAs (Decidable
      (segments.map Segment.isReference = others.map Segment.isReference))
  | .plain _, .template _ => inferInstanceAs (Decidable False)
  | .template _, .plain _ => inferInstanceAs (Decidable False)

def SameField (field other : String × String) : Prop :=
  SameForm field.1 other.1 ∧ SamePattern (TextExpr.parse field.2) (TextExpr.parse other.2)

/-- Bodies of the same kind, with texts of the same pattern or fields alike. -/
def SameBody : Body → Body → Prop
  | .absent, .absent => True
  | .raw text, .raw other => SamePattern (TextExpr.parse text) (TextExpr.parse other)
  | .form fields, .form others => List.Forall₂ SameField fields.entries others.entries
  | .urlencoded fields, .urlencoded others => List.Forall₂ SameField fields.entries others.entries
  | _, _ => False

structure SameCall (t u : Transaction) : Prop where
  function : (callOf t).callee.name = (callOf u).callee.name
  url : SamePattern (TextExpr.parse t.url) (TextExpr.parse u.url)
  body : SameBody t.body u.body

/-- Variables with names of the same form and values of the same structure. -/
def SameVariable (entry other : String × Value) : Prop :=
  SameForm entry.1 other.1 ∧ SameStructure entry.2 other.2

/-- Maps with as many variables, alike one by one. An absent map is an empty one. -/
def SameVariables (vars others : Option Variables) : Prop :=
  List.Forall₂ SameVariable (entriesOf vars) (entriesOf others)

def SameKind : RowSource → RowSource → Prop
  | .absent, .absent => True
  | .json _, .json _ => True
  | .csv _, .csv _ => True
  | _, _ => False

/-- Inputs of the same shape. -/
structure SameShape (ts : List Transaction) (sources : Sources) (us : List Transaction)
    (others : Sources) : Prop where
  calls : List.Forall₂ SameCall ts us
  globals : SameVariables sources.globals others.globals
  environment : SameVariables sources.environment others.environment
  collection : SameVariables sources.collection others.collection
  data : SameKind sources.data others.data

/-! ## What follows for the parts of a script -/

/-- Expressions of the same pattern, or payloads of the same kind, one by one. -/
def SamePayload : Payload → Payload → Prop
  | .absent, .absent => True
  | .text e, .text d => SamePattern e d
  | .form fields, .form others =>
    List.Forall₂ (fun x y => SameForm x.1 y.1 ∧ SamePattern x.2 y.2) fields others
  | .urlencoded fields, .urlencoded others =>
    List.Forall₂ (fun x y => SameForm x.1 y.1 ∧ SamePattern x.2 y.2) fields others
  | _, _ => False

theorem samePayload_ofBody {body other : Body} (h : SameBody body other) :
    SamePayload (Payload.ofBody body) (Payload.ofBody other) := by
  have hfields : ∀ fields others : Fields, List.Forall₂ SameField fields.entries others.entries →
      List.Forall₂ (fun x y => SameForm x.1 y.1 ∧ SamePattern x.2 y.2)
        (fieldExprs fields) (fieldExprs others) := by
    intro fields others hall
    rw [fieldExprs, fieldExprs, List.forall₂_map_left_iff, List.forall₂_map_right_iff]
    exact hall
  cases body with
  | absent =>
      cases other with
      | absent => trivial
      | _ => exact h.elim
  | raw text =>
      cases other with
      | raw more => exact h
      | _ => exact h.elim
  | form fields =>
      cases other with
      | form others => exact hfields fields others h
      | _ => exact h.elim
  | urlencoded fields =>
      cases other with
      | urlencoded others => exact hfields fields others h
      | _ => exact h.elim

/-- Declarations for the same origin, alike. -/
inductive SameDeclared : Origin × Declared → Origin × Declared → Prop where
  | values (origin : Origin) {vars others : Variables}
      (h : List.Forall₂ SameVariable vars.entries others.entries) :
      SameDeclared (origin, .values vars) (origin, .values others)
  | rows (origin : Origin) : SameDeclared (origin, .rows) (origin, .rows)

theorem sameDeclared_values {vars others : Option Variables} (h : SameVariables vars others)
    (origin : Origin) :
    List.Forall₂ SameDeclared (declaredValues origin vars) (declaredValues origin others) := by
  rw [SameVariables] at h
  rcases declaredValues_eq origin vars with ⟨hempty, hnone⟩ | ⟨m, rfl, hfull, hsome⟩
  · rcases declaredValues_eq origin others with ⟨_, hnone'⟩ | ⟨_, _, hfull', _⟩
    · rw [hnone, hnone']
      exact .nil
    · rw [hempty, List.forall₂_nil_left_iff] at h
      exact absurd h hfull'
  · rcases declaredValues_eq origin others with ⟨hempty', _⟩ | ⟨n, rfl, _, hsome'⟩
    · rw [hempty', List.forall₂_nil_right_iff] at h
      exact absurd h hfull
    · rw [hsome, hsome']
      exact .cons (.values origin h) .nil

theorem sameDeclared_rows {data other : RowSource} (h : SameKind data other) :
    List.Forall₂ SameDeclared (declaredRows data) (declaredRows other) := by
  match data, other with
  | .absent, .absent => exact .nil
  | .json _, .json _ => exact .cons (.rows .data) .nil
  | .csv _, .csv _ => exact .cons (.rows .data) .nil

theorem SameShape.entries {ts us : List Transaction} {sources others : Sources}
    (h : SameShape ts sources us others) :
    List.Forall₂ SameDeclared (Scope.ofSources sources).entries
      (Scope.ofSources others).entries := by
  have hfront := List.rel_append (sameDeclared_values h.globals .global)
    (sameDeclared_values h.environment .environment)
  have hvalues := List.rel_append hfront (sameDeclared_values h.collection .collection)
  exact List.rel_append hvalues (sameDeclared_rows h.data)

/-- Uses of tables, or of other files, or none. -/
inductive SameUse : Option RowsUse → Option RowsUse → Prop where
  | none : SameUse none none
  | some {rows other : RowsUse} (h : rows.isTable = other.isTable) :
      SameUse (some rows) (some other)

theorem sameUse_ofSource {data other : RowSource} (h : SameKind data other) :
    SameUse (RowsUse.ofSource? data) (RowsUse.ofSource? other) := by
  match data, other, h with
  | .absent, .absent, _ => exact .none
  | .json _, .json _, _ => exact .some rfl
  | .csv _, .csv _, _ => exact .some rfl

theorem SameUse.any_isTable {rows other : Option RowsUse} (h : SameUse rows other) :
    rows.any RowsUse.isTable = other.any RowsUse.isTable := by
  cases h with
  | none => rfl
  | some h => rw [Option.any_some, Option.any_some, h]

theorem SameUse.isSome_eq {rows other : Option RowsUse} (h : SameUse rows other) :
    rows.isSome = other.isSome := by
  cases h with
  | none => rfl
  | some h => rfl

/-- Functions of the same name are the same, or send methods of their own. -/
theorem callee_of_name {callee other : Callee} (h : callee.name = other.name) :
    callee = other ∨ ∃ method verb, callee = .request method ∧ other = .request verb := by
  cases callee with
  | request method =>
      cases other with
      | request verb => exact Or.inr ⟨method, verb, rfl, rfl⟩
      | _ => simp [Callee.name] at h
  | _ =>
      cases other with
      | request verb => simp [Callee.name] at h
      | _ => simp_all [Callee.name]

end LoadScript.Script
