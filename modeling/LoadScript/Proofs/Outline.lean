import LoadScript.Proofs.LineFeed

/-!
# Contents do not reach the program

Whatever the texts, names and numbers of an input are, the program that a script
is depends on the shape of the input only: scripts for inputs of the same shape
have the same tokens one by one, up to what is inside of literals and to the
names of properties. So no text can end its literal, open a substitution or
begin a line of its own.

`Alike` says what two sequences of tokens may differ in, one constructor for
each kind of content. It is kept when sequences are put together, so the proof
goes along the parts of a script.
-/

namespace LoadScript.Script

open Ecma
open Json (Value)

def truthWord (b : Bool) : String := if b then "true" else "false"

/-- Tokens that are the same but for the contents of string literals, chunks of
templates and numerals, the names of properties, and truth values. -/
inductive Alike : List Token → List Token → Prop where
  | nil : Alike [] []
  | same (t : Token) {ts us : List Token} (h : Alike ts us) : Alike (t :: ts) (t :: us)
  | string (s t : String) {ts us : List Token} (h : Alike ts us) :
      Alike (.string s :: ts) (.string t :: us)
  | chunk (first last : Bool) (s t : String) {ts us : List Token} (h : Alike ts us) :
      Alike (.chunk first last s :: ts) (.chunk first last t :: us)
  | numeral (m n : Json.Numeral) {ts us : List Token} (h : Alike ts us) :
      Alike (.numeral m :: ts) (.numeral n :: us)
  | truth (a b : Bool) {ts us : List Token} (h : Alike ts us) :
      Alike (.name (truthWord a) :: ts) (.name (truthWord b) :: us)
  | property (s t : String) {ts us : List Token} (h : Alike ts us) :
      Alike (.name s :: .punctuator ":" :: ts) (.name t :: .punctuator ":" :: us)

namespace Alike

variable {ts us vs ws : List Token}

theorem refl (ts : List Token) : Alike ts ts := by
  induction ts with
  | nil => exact .nil
  | cons t ts ih => exact .same t ih

theorem append (h : Alike ts us) (h' : Alike vs ws) : Alike (ts ++ vs) (us ++ ws) := by
  induction h with
  | nil => exact h'
  | same t _ ih => exact .same t ih
  | string s t _ ih => exact .string s t ih
  | chunk first last s t _ ih => exact .chunk first last s t ih
  | numeral m n _ ih => exact .numeral m n ih
  | truth a b _ ih => exact .truth a b ih
  | property s t _ ih => exact .property s t ih

theorem length_eq (h : Alike ts us) : ts.length = us.length := by
  induction h with
  | nil => rfl
  | same _ _ ih => rw [List.length_cons, List.length_cons, ih]
  | string _ _ _ ih => rw [List.length_cons, List.length_cons, ih]
  | chunk _ _ _ _ _ ih => rw [List.length_cons, List.length_cons, ih]
  | numeral _ _ _ ih => rw [List.length_cons, List.length_cons, ih]
  | truth _ _ _ ih => rw [List.length_cons, List.length_cons, ih]
  | property _ _ _ ih =>
      rw [List.length_cons, List.length_cons, List.length_cons, List.length_cons, ih]

theorem intercalate (mark : Token) {xs ys : List (List Token)} (h : List.Forall₂ Alike xs ys) :
    Alike ([mark].intercalate xs) ([mark].intercalate ys) := by
  induction h with
  | nil => exact .nil
  | cons hfirst hrest ih =>
      cases hrest with
      | nil => simpa using hfirst
      | cons hnext hmore =>
          rw [List.intercalate_cons_cons, List.intercalate_cons_cons]
          exact (hfirst.append (refl [mark])).append ih

theorem flatMap {α β : Type} {r : α → β → Prop} {f : α → List Token} {g : β → List Token}
    {xs : List α} {ys : List β} (h : List.Forall₂ r xs ys) (hfg : ∀ x y, r x y → Alike (f x) (g y)) :
    Alike (xs.flatMap f) (ys.flatMap g) := by
  induction h with
  | nil => exact .nil
  | cons hfirst _ ih =>
      rw [List.flatMap_cons, List.flatMap_cons]
      exact (hfg _ _ hfirst).append ih

end Alike

/-- Expressions with the same tokens up to contents. -/
def AlikeExpr (e d : Expr) : Prop := Alike e.tokens d.tokens

/-! ## Objects, lists and calls -/

theorem alike_key {s t : String} (h : SameForm s t) {ts us : List Token} (hrest : Alike ts us) :
    Alike ((keyOf s).token :: .punctuator ":" :: ts) ((keyOf t).token :: .punctuator ":" :: us) := by
  rw [SameForm] at h
  rw [keyOf, keyOf, h]
  split
  · exact .property s t hrest
  · exact .string s t (.same _ hrest)

theorem alike_object {α β : Type} {name : α → String} {label : β → String} {e : α → Expr}
    {d : β → Expr} {xs : List α} {ys : List β}
    (h : List.Forall₂ (fun x y => SameForm (name x) (label y) ∧ AlikeExpr (e x) (d y)) xs ys) :
    AlikeExpr (objectOf name e xs) (objectOf label d ys) := by
  have hmembers : List.Forall₂ Alike (xs.map fun x => memberTokensOf (keyOf (name x)) (e x))
      (ys.map fun y => memberTokensOf (keyOf (label y)) (d y)) := by
    rw [List.forall₂_map_left_iff, List.forall₂_map_right_iff]
    exact h.imp fun x y hxy => alike_key hxy.1 hxy.2
  rw [AlikeExpr, objectOf_tokens, objectOf_tokens]
  exact (Alike.same _ (Alike.intercalate _ hmembers)).append (.refl _)

theorem alike_listTokens {es ds : List Expr} (h : List.Forall₂ AlikeExpr es ds) :
    Alike (Expr.listTokens es) (Expr.listTokens ds) := by
  have htokens : List.Forall₂ Alike (es.map Expr.tokens) (ds.map Expr.tokens) := by
    rw [List.forall₂_map_left_iff, List.forall₂_map_right_iff]
    exact h
  rw [listTokens_eq, listTokens_eq]
  exact Alike.intercalate _ htokens

theorem alike_call (callee : Expr) {es ds : List Expr} (h : List.Forall₂ AlikeExpr es ds) :
    AlikeExpr (.call callee es) (.call callee ds) := by
  rw [AlikeExpr, Expr.tokens, Expr.tokens]
  exact ((Alike.refl callee.tokens).append (.same _ (alike_listTokens h))).append (.refl _)

/-! ## Texts -/

/-- A template depends on its pattern up to contents: its chunks are as many as
its references and one more. -/
theorem alike_templateOf {segments others : List Segment}
    (h : segments.map Segment.isReference = others.map Segment.isReference) :
    (templateOf segments).2.isEmpty = (templateOf others).2.isEmpty
      ∧ Alike (Expr.partTokens (templateOf segments).2) (Expr.partTokens (templateOf others).2) := by
  induction segments generalizing others with
  | nil =>
      cases others with
      | nil => exact ⟨rfl, .nil⟩
      | cons other others => simp at h
  | cons segment rest ih =>
      cases others with
      | nil => simp at h
      | cons other others =>
          rw [List.map_cons, List.map_cons, List.cons.injEq] at h
          obtain ⟨hempty, hparts⟩ := ih h.2
          match segment, other, h.1 with
          | .literal text, .literal more, _ => exact ⟨hempty, hparts⟩
          | .reference name, .reference label, _ =>
              have hlookup : AlikeExpr (lookup name) (lookup label) :=
                alike_call _ (.cons (.string name label .nil) .nil)
              refine ⟨rfl, ?_⟩
              rw [templateOf, templateOf, Expr.partTokens, Expr.partTokens, hempty]
              exact Alike.append hlookup (.chunk _ _ _ _ hparts)

theorem alike_textExpr {e d : TextExpr} (h : SamePattern e d) : AlikeExpr e.expr d.expr := by
  match e, d with
  | .plain text, .plain other => exact .string text other .nil
  | .template segments, .template others =>
      obtain ⟨hempty, hparts⟩ := alike_templateOf h
      rw [AlikeExpr, TextExpr.expr, TextExpr.expr, Expr.tokens, Expr.tokens, hempty]
      exact .chunk _ _ _ _ hparts

/-! ## Values -/

theorem alike_memberTokens {members others : List (String × Value)}
    (h : List.Forall₂ (fun m n => AlikeExpr m.2.expr n.2.expr) members others) :
    Alike (Expr.memberTokens (Value.memberExprs members))
      (Expr.memberTokens (Value.memberExprs others)) := by
  rw [Value.memberExprs_eq_map, Value.memberExprs_eq_map, memberTokens_eq, memberTokens_eq,
    List.map_map, List.map_map]
  refine Alike.intercalate _ ?_
  rw [List.forall₂_map_left_iff, List.forall₂_map_right_iff]
  exact h.imp fun m n hmn => .string m.1 n.1 (.same _ hmn)

mutual

theorem alike_value : ∀ {value other : Value}, SameStructure value other →
    AlikeExpr value.expr other.expr
  | _, _, .null => Alike.refl _
  | _, _, .bool a b => by
      have hexpr : ∀ b : Bool, (Value.bool b).expr = .name (truthWord b) := by
        intro b
        cases b with
        | true => rfl
        | false => rfl
      rw [hexpr, hexpr]
      exact Alike.truth a b .nil
  | _, _, .number m n => Alike.numeral m.numeral n.numeral .nil
  | _, _, .string s t => Alike.string s t .nil
  | _, _, .array h => by
      rw [AlikeExpr, Value.expr, Value.expr, Expr.tokens, Expr.tokens]
      exact (Alike.same _ (alike_listTokens (alike_elements h))).append (.refl _)
  | _, _, .object h => by
      rw [AlikeExpr, Value.expr, Value.expr, Expr.tokens, Expr.tokens]
      exact (Alike.same _ (alike_memberTokens (alike_members h))).append (.refl _)

theorem alike_elements : ∀ {elements others : List Value}, SameElements elements others →
    List.Forall₂ AlikeExpr (Value.elementExprs elements) (Value.elementExprs others)
  | _, _, .nil => .nil
  | _, _, .cons h hrest => .cons (alike_value h) (alike_elements hrest)

theorem alike_members : ∀ {members others : List (String × Value)}, SameMembers members others →
    List.Forall₂ (fun m n => AlikeExpr m.2.expr n.2.expr) members others
  | _, _, .nil => .nil
  | _, _, .cons _ _ h hrest => .cons (alike_value h) (alike_members hrest)

end

/-! ## Statements -/

theorem alike_declared {entry other : Origin × Declared} (h : SameDeclared entry other) :
    SameForm entry.1.key other.1.key ∧ AlikeExpr entry.2.expr other.2.expr := by
  cases h with
  | values origin h =>
      refine ⟨rfl, alike_object ?_⟩
      exact h.imp fun _ _ hentry => ⟨hentry.1, alike_value hentry.2⟩
  | rows origin => exact ⟨rfl, Alike.refl _⟩

theorem alike_scope {scope other : Scope}
    (h : List.Forall₂ SameDeclared scope.entries other.entries) :
    AlikeExpr scope.expr other.expr := by
  have hobject : AlikeExpr scope.object other.object :=
    alike_object (h.imp fun _ _ => alike_declared)
  rw [Scope.expr, Scope.expr, Scope.isEmpty, Scope.isEmpty, isEmpty_eq_of_forall₂ h]
  split
  · exact Alike.refl _
  · exact alike_call _ (.cons hobject .nil)

theorem alike_fields {fields others : List (String × TextExpr)}
    (h : List.Forall₂ (fun x y => SameForm x.1 y.1 ∧ SamePattern x.2 y.2) fields others) :
    AlikeExpr (fieldsExpr fields) (fieldsExpr others) :=
  alike_object (h.imp fun _ _ hfield => ⟨hfield.1, alike_textExpr hfield.2⟩)

theorem alike_payload {payload other : Payload} (h : SamePayload payload other) :
    List.Forall₂ AlikeExpr (payload.bodyExpr?.toList ++ payload.paramsExpr?.toList)
      (other.bodyExpr?.toList ++ other.paramsExpr?.toList) := by
  match payload, other, h with
  | .absent, .absent, _ => exact .nil
  | .text e, .text d, h => exact .cons (alike_textExpr h) .nil
  | .form fields, .form others, h => exact .cons (alike_fields h) .nil
  | .urlencoded fields, .urlencoded others, h =>
      exact .cons (alike_fields h) (.cons (Alike.refl _) .nil)

theorem alike_callExpr {call other : Call} (hname : call.callee.name = other.callee.name)
    (hurl : SamePattern call.url other.url) (hpayload : SamePayload call.payload other.payload) :
    AlikeExpr call.expr other.expr := by
  have hleading : List.Forall₂ AlikeExpr call.callee.arguments other.callee.arguments := by
    rcases callee_of_name hname with heq | ⟨method, verb, hcall, hother⟩
    · rw [heq, List.forall₂_same]
      exact fun _ _ => Alike.refl _
    · rw [hcall, hother]
      exact .cons (.string method verb .nil) .nil
  have harguments : List.Forall₂ AlikeExpr call.arguments other.arguments :=
    List.rel_append hleading (.cons (alike_textExpr hurl) (alike_payload hpayload))
  rw [Call.expr, Call.expr, hname]
  exact alike_call _ harguments

theorem alike_callTokens {call other : Call} (h : AlikeExpr call.expr other.expr) :
    Alike (callTokens call) (callTokens other) :=
  Alike.same _ (.same _ (Alike.append h (.refl _)))

theorem alike_rowsTokens {rows other : Option RowsUse} (h : SameUse rows other) :
    Alike (rowsTokens rows) (rowsTokens other) := by
  cases h with
  | none => exact .nil
  | some htable =>
      rw [rowsTokens, rowsTokens, htable]
      exact ((Alike.refl _).append (.string _ _ .nil)).append (.refl _)

/-- Scripts that agree in how they use rows, in the shape of their declarations
and in the outlines of their calls have the same outline. -/
theorem alike_tokens {script other : Script} (hrows : SameUse script.rows other.rows)
    (hscope : List.Forall₂ SameDeclared script.scope.entries other.scope.entries)
    (hcalls : List.Forall₂ (fun c d => AlikeExpr c.expr d.expr) script.calls other.calls) :
    Alike script.tokens other.tokens := by
  have hstatements : Alike (script.calls.flatMap callTokens) (other.calls.flatMap callTokens) :=
    Alike.flatMap hcalls fun _ _ => alike_callTokens
  rw [tokens, tokens, hrows.any_isTable, hrows.isSome_eq]
  exact ((((Alike.refl _).append (alike_rowsTokens hrows)).append (.refl _)).append
    (Alike.append (alike_scope hscope) (.refl _))).append
      (((Alike.refl _).append hstatements).append (.refl _))

/-! ## Inputs of the same shape -/

/-- Valid inputs of the same shape have scripts with equally many tokens, which
differ in contents only, and with equally many line feeds. No script has a
carriage return. -/
theorem alike_of_sameShape {ts us : List Transaction} {sources others : Sources} (hts : ts ≠ [])
    (hcheck : ∀ t ∈ ts, t.check = .ok ()) (hcheck' : ∀ u ∈ us, u.check = .ok ())
    (h : SameShape ts sources us others) :
    ∃ script other xs ys, (ofTransactions ts sources).outcome = .ok script
      ∧ (ofTransactions us others).outcome = .ok other
      ∧ tokens? script.render = some xs ∧ tokens? other.render = some ys
      ∧ Alike xs ys ∧ xs.length = ys.length
      ∧ script.render.toList.count '\n' = other.render.toList.count '\n'
      ∧ '\r' ∉ script.render.toList ∧ '\r' ∉ other.render.toList := by
  have hus : us ≠ [] := by
    rintro rfl
    exact hts (List.forall₂_nil_right_iff.1 h.calls)
  have hrows : SameUse (scriptOf ts sources).rows (scriptOf us others).rows :=
    sameUse_ofSource h.data
  have hscope : List.Forall₂ SameDeclared (scriptOf ts sources).scope.entries
      (scriptOf us others).scope.entries := h.entries
  have hcalls : List.Forall₂ (fun c d => AlikeExpr c.expr d.expr) (scriptOf ts sources).calls
      (scriptOf us others).calls := by
    rw [scriptOf, scriptOf, List.forall₂_map_left_iff, List.forall₂_map_right_iff]
    exact h.calls.imp fun _ _ hcall =>
      alike_callExpr hcall.function hcall.url (samePayload_ofBody hcall.body)
  have hlayout : List.Forall₂ (fun c d => Aligned c.render d.render) (scriptOf ts sources).calls
      (scriptOf us others).calls := by
    rw [scriptOf, scriptOf, List.forall₂_map_left_iff, List.forall₂_map_right_iff]
    exact h.calls.imp fun _ _ hcall => aligned_call hcall.function (samePayload_ofBody hcall.body)
  have htokens : Alike (scriptOf ts sources).tokens (scriptOf us others).tokens :=
    alike_tokens hrows hscope hcalls
  have haligned : Aligned (scriptOf ts sources).render (scriptOf us others).render :=
    aligned_render (by simpa [scriptOf] using hts) (by simpa [scriptOf] using hus) hrows hscope
      hlayout
  exact ⟨_, _, _, _, ofTransactions_outcome hcheck sources, ofTransactions_outcome hcheck' others,
    tokens?_scriptOf hts sources, tokens?_scriptOf hus others, htokens, htokens.length_eq,
    haligned.count, haligned.left, haligned.right⟩

def order : Transaction where
  name := "order"
  method := "POST"
  url := "http://\x7b\x7bhost\x7d\x7d/orders"
  headers := ∅
  body := .form (OrderedMap.ofList [("id", "1"), ("the note", "by \x7b\x7buser\x7d\x7d")])

/-- A request of the same shape, with texts that try to leave their literals. -/
def intrusion : Transaction where
  name := ""
  method := " post\r\n"
  url := "\\\x7b\x7b\"]);\n\x7d\x7d$\x7b"
  headers := ∅
  body := .form (OrderedMap.ofList [("$", "\");"), ("\n", "\x60$\x7b\x7b\\\x7d\x7d")])

/-- Sources with a list of a number and a truth value, and a table. -/
def orderSources : Sources where
  globals := some (OrderedMap.ofList [("limits", .array [.number (.integer 1 (by decide)),
    .bool true])])
  environment := none
  collection := some ∅
  data := .csv "orders.csv"

def intrusionSources : Sources where
  globals := some (OrderedMap.ofList [("__proto__", .array [.number (.integer (-20) (by decide)),
    .bool false])])
  environment := some ∅
  collection := none
  data := .csv "\"); //\n"

theorem sameShape_intrusion : SameShape [order] orderSources [intrusion] intrusionSources where
  calls := .cons ⟨by decide +kernel, by decide +kernel, .cons ⟨by decide, by decide +kernel⟩
    (.cons ⟨by decide, by decide +kernel⟩ .nil)⟩ .nil
  globals := .cons ⟨by decide, .array (.cons (.number _ _) (.cons (.bool _ _) .nil))⟩ .nil
  environment := .nil
  collection := .nil
  data := trivial

theorem alike_intrusion :
    [order] ≠ [] ∧ (∀ t ∈ [order], t.check = .ok ()) ∧ (∀ u ∈ [intrusion], u.check = .ok ())
      ∧ SameShape [order] orderSources [intrusion] intrusionSources
      ∧ ∃ script other xs ys, (ofTransactions [order] orderSources).outcome = .ok script
        ∧ (ofTransactions [intrusion] intrusionSources).outcome = .ok other
        ∧ tokens? script.render = some xs ∧ tokens? other.render = some ys
        ∧ Alike xs ys ∧ xs.length = ys.length
        ∧ script.render.toList.count '\n' = other.render.toList.count '\n'
        ∧ '\r' ∉ script.render.toList ∧ '\r' ∉ other.render.toList := by
  have hcheck : ∀ t ∈ [order], t.check = .ok () := by simp; rfl
  have hcheck' : ∀ u ∈ [intrusion], u.check = .ok () := by simp; rfl
  exact ⟨by simp, hcheck, hcheck', sameShape_intrusion,
    alike_of_sameShape (by simp) hcheck hcheck' sameShape_intrusion⟩

end LoadScript.Script
