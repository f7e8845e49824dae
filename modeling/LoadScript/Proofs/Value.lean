import LoadScript.Proofs.LineBreak
import LoadScript.Proofs.Number.ReadBack
import LoadScript.Proofs.Object
import LoadScript.Script.Scope

/-!
# JSON values in a script

JSON text is ECMAScript source text, so a value is written into a script as it
is, save that a string on its own is quoted like any other text of the script.
Either way the value spells an expression (`lexes_valueText`), and the
expression determines the value (`ofExpr?_expr`): the numerals in it are the
ones that numbers are written as, and those denote their numbers.
-/

namespace LoadScript.Json.Value

open Ecma Script

mutual

def expr : Value → Expr
  | .null => .name "null"
  | .bool true => .name "true"
  | .bool false => .name "false"
  | .number value => .numeral value.numeral
  | .string value => .string value
  | .array elements => .array (elementExprs elements)
  | .object members => .object (memberExprs members)
  termination_by structural value => value

def elementExprs : List Value → List Expr
  | [] => []
  | value :: rest => expr value :: elementExprs rest
  termination_by structural values => values

def memberExprs : List (String × Value) → List (Key × Expr)
  | [] => []
  | (label, value) :: rest => (.quoted label, expr value) :: memberExprs rest
  termination_by structural members => members

end

theorem elementTexts_eq_map (elements : List Value) :
    elementTexts elements = elements.map text := by
  induction elements with
  | nil => rfl
  | cons value rest ih => rw [elementTexts, List.map_cons, ih]

theorem memberTexts_eq_map (members : List (String × Value)) :
    memberTexts members = members.map fun m => quoted m.1 ++ ":" ++ text m.2 := by
  induction members with
  | nil => rfl
  | cons m rest ih =>
      obtain ⟨label, value⟩ := m
      rw [memberTexts, List.map_cons, ih]

theorem elementExprs_eq_map (elements : List Value) :
    elementExprs elements = elements.map expr := by
  induction elements with
  | nil => rfl
  | cons value rest ih => rw [elementExprs, List.map_cons, ih]

theorem memberExprs_eq_map (members : List (String × Value)) :
    memberExprs members = members.map fun m => (.quoted m.1, expr m.2) := by
  induction members with
  | nil => rfl
  | cons m rest ih =>
      obtain ⟨label, value⟩ := m
      rw [memberExprs, List.map_cons, ih]

/-! ## What values spell -/

theorem spells_array {elements : List Value}
    (h : ∀ value ∈ elements, Lexes value.text value.expr.tokens) :
    Spells (text (.array elements)) (expr (.array elements)).tokens := by
  have hopen : Spells "[" [.punctuator "["] := fun _ => rfl
  have hclose : Spells "]" [.punctuator "]"] := fun _ => rfl
  have hcomma : Spells "," [.punctuator ","] := fun _ => rfl
  have hlist := Lexes.intercalate hcomma ⟨',', by decide, [], rfl⟩ h
  rw [text, expr, Expr.tokens, elementTexts_eq_map, elementExprs_eq_map, listTokens_eq,
    List.map_map]
  exact (hopen.append_lexes hlist).append_spells ⟨']', by decide, [], rfl⟩ hclose

theorem spells_object {members : List (String × Value)}
    (h : ∀ m ∈ members, Lexes m.2.text m.2.expr.tokens) :
    Spells (text (.object members)) (expr (.object members)).tokens := by
  have hcomma : Spells "," [.punctuator ","] := fun _ => rfl
  have hcolon : Spells ":" [.punctuator ":"] := fun _ => rfl
  have hmember : ∀ m ∈ members, Lexes (quoted m.1 ++ ":" ++ text m.2)
      (memberTokensOf (.quoted m.1) m.2.expr) := fun m hm =>
    ((spells_quoted m.1).append hcolon).append_lexes (h m hm)
  have hlist := Lexes.intercalate hcomma ⟨',', by decide, [], rfl⟩ hmember
  rw [text, expr, Expr.tokens, memberTexts_eq_map, memberExprs_eq_map, memberTokens_eq,
    List.map_map]
  exact hlist.braced

mutual

theorem lexes_text : ∀ value : Value, Lexes value.text value.expr.tokens
  | .null => lexes_bareName (by decide)
  | .bool true => lexes_bareName (by decide)
  | .bool false => lexes_bareName (by decide)
  | .number value => by
      have h := lexes_numeral (numeral_wellFormed value)
      rw [chars_numeral] at h
      exact h
  | .string value => (spells_quoted value).lexes
  | .array elements => (spells_array (lexes_elements elements)).lexes
  | .object members => (spells_object (lexes_members members)).lexes

theorem lexes_elements : ∀ (elements : List Value), ∀ value ∈ elements,
    Lexes value.text value.expr.tokens
  | [], _, h => absurd h (by simp)
  | first :: rest, value, h => by
      rcases List.mem_cons.1 h with heq | h
      · rw [heq]
        exact lexes_text first
      · exact lexes_elements rest value h

theorem lexes_members : ∀ (members : List (String × Value)), ∀ m ∈ members,
    Lexes m.2.text m.2.expr.tokens
  | [], _, h => absurd h (by simp)
  | (label, value) :: rest, m, h => by
      rcases List.mem_cons.1 h with heq | h
      · rw [heq]
        exact lexes_text value
      · exact lexes_members rest m h

end

/-- In either writing, a value spells its expression. -/
theorem lexes_valueText (value : Value) : Lexes (valueText value) value.expr.tokens := by
  unfold valueText
  split
  · next s => exact (spells_quote s).lexes
  · exact lexes_text value

/-! ## Values stand in one line -/

theorem not_mem_number {c : Char} (hc : IsBreak c) (n : Number) : c ∉ n.text.toList := by
  have hdigits : ∀ digits, IsDigits digits → c ∉ digits := by
    intro digits h hmem
    rcases hc with rfl | rfl <;> exact absurd (h.2 _ hmem) (by decide)
  have hwf := numeral_wellFormed n
  have hfraction : c ∉ Numeral.fractionChars n.numeral.fraction := by
    cases hf : n.numeral.fraction with
    | none => simp [Numeral.fractionChars]
    | some digits =>
        have hpoint : c ≠ '.' := hc.ne (by decide)
        simp [Numeral.fractionChars, hpoint, hdigits _ (hwf.fraction digits hf)]
  have hexponent : c ∉ Numeral.exponentChars n.numeral.exponent := by
    cases he : n.numeral.exponent with
    | none => simp [Numeral.exponentChars]
    | some e =>
        have hparts := hwf.exponent e he
        have hmark : c ≠ e.mark := by
          rintro rfl
          rcases hc with hc | hc <;> rcases hparts.mark with hm | hm <;>
            exact absurd (hc.symm.trans hm) (by decide)
        have hsign : c ∉ e.sign := by
          intro hmem
          rcases hc with rfl | rfl <;> rcases hparts.sign _ hmem with hs | hs <;>
            exact absurd hs (by decide)
        have hlist : c ∉ e.sign.toList := fun h => hsign (Option.mem_toList.1 h)
        simp [Numeral.exponentChars, Numeral.Exponent.chars, hmark, hlist,
          hdigits _ hparts.digits]
  have hminus : c ∉ (if n.numeral.negative then ['-'] else []) := by
    split
    · exact hc.not_mem (by decide)
    · simp
  rw [Number.text, String.toList_ofList, ← chars_numeral, Numeral.chars_eq]
  simp only [List.mem_append, not_or]
  exact ⟨hminus, hdigits _ hwf.whole, hfraction, hexponent⟩

mutual

theorem not_mem_text {c : Char} (hc : IsBreak c) : ∀ value : Value, c ∉ value.text.toList
  | .null => hc.not_mem (by decide)
  | .bool true => hc.not_mem (by decide)
  | .bool false => hc.not_mem (by decide)
  | .number value => not_mem_number hc value
  | .string value => not_mem_quoted hc value
  | .array elements => by
      have hlist : c ∉ (",".intercalate (elementTexts elements)).toList :=
        not_mem_intercalate (hc.not_mem (by decide)) (not_mem_elementTexts hc elements)
      rw [text]
      exact not_mem_append (not_mem_append (hc.not_mem (by decide)) hlist) (hc.not_mem (by decide))
  | .object members => by
      have hlist : c ∉ (",".intercalate (memberTexts members)).toList :=
        not_mem_intercalate (hc.not_mem (by decide)) (not_mem_memberTexts hc members)
      rw [text]
      exact not_mem_append (not_mem_append (hc.not_mem (by decide)) hlist) (hc.not_mem (by decide))

theorem not_mem_elementTexts {c : Char} (hc : IsBreak c) : ∀ (elements : List Value),
    ∀ s ∈ elementTexts elements, c ∉ s.toList
  | [], _, h => absurd h (by simp [elementTexts])
  | value :: rest, s, h => by
      rcases List.mem_cons.1 h with heq | h
      · rw [heq]
        exact not_mem_text hc value
      · exact not_mem_elementTexts hc rest s h

theorem not_mem_memberTexts {c : Char} (hc : IsBreak c) : ∀ (members : List (String × Value)),
    ∀ s ∈ memberTexts members, c ∉ s.toList
  | [], _, h => absurd h (by simp [memberTexts])
  | (label, value) :: rest, s, h => by
      rcases List.mem_cons.1 h with heq | h
      · have hcolon : c ∉ ":".toList := hc.not_mem (by decide)
        rw [heq]
        exact not_mem_append (not_mem_append (not_mem_quoted hc label) hcolon) (not_mem_text hc value)
      · exact not_mem_memberTexts hc rest s h

end

theorem not_mem_valueText {c : Char} (hc : IsBreak c) (value : Value) :
    c ∉ (valueText value).toList := by
  unfold valueText
  split
  · next s => exact not_mem_quote hc s
  · exact not_mem_text hc value

/-! ## Values read back -/

mutual

/-- The value that an expression is, if it is one. -/
def ofExpr? : Expr → Option Value
  | .name "null" => some .null
  | .name "true" => some (.bool true)
  | .name "false" => some (.bool false)
  | .numeral value => value.nearest?.map .number
  | .string value => some (.string value)
  | .array elements => (elementValues? elements).map .array
  | .object members => (memberValues? members).map .object
  | _ => none
  termination_by structural e => e

def elementValues? : List Expr → Option (List Value)
  | [] => some []
  | e :: rest => do
    let value ← ofExpr? e
    let values ← elementValues? rest
    some (value :: values)
  termination_by structural elements => elements

def memberValues? : List (Key × Expr) → Option (List (String × Value))
  | [] => some []
  | (key, e) :: rest => do
    let value ← ofExpr? e
    let members ← memberValues? rest
    some ((key.text, value) :: members)
  termination_by structural members => members

end

mutual

theorem ofExpr?_expr : ∀ value : Value, ofExpr? value.expr = some value
  | .null => by simp [expr, ofExpr?]
  | .bool true => by simp [expr, ofExpr?]
  | .bool false => by simp [expr, ofExpr?]
  | .number value => by simp [expr, ofExpr?, nearest?_numeral]
  | .string value => by simp [expr, ofExpr?]
  | .array elements => by simp [expr, ofExpr?, elementValues?_exprs elements]
  | .object members => by simp [expr, ofExpr?, memberValues?_exprs members]

theorem elementValues?_exprs : ∀ elements : List Value,
    elementValues? (elementExprs elements) = some elements
  | [] => rfl
  | value :: rest => by
      simp [elementExprs, elementValues?, ofExpr?_expr value, elementValues?_exprs rest]

theorem memberValues?_exprs : ∀ members : List (String × Value),
    memberValues? (memberExprs members) = some members
  | [] => rfl
  | (label, value) :: rest => by
      simp [memberExprs, memberValues?, Key.text, ofExpr?_expr value, memberValues?_exprs rest]

end

/-- Values are told apart by their expressions. -/
theorem expr_inj {value other : Value} (h : value.expr = other.expr) : value = other := by
  have hread := ofExpr?_expr value
  rw [h, ofExpr?_expr, Option.some.injEq] at hread
  exact hread.symm

end LoadScript.Json.Value
