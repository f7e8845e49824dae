import LoadScript.Proofs.Call
import LoadScript.Proofs.Merge
import LoadScript.Proofs.Request

/-!
# The fields of a form read back

A form is recorded as a list of entries and replayed as an object literal, and
in between it is a map. So what can be read back from the text of a call is the
list with the entries of equal keys merged: a key stands where it first stood
among the enabled entries, with the text that it last had there. Forms whose
keys do not repeat come back as they were recorded.

A text is read back from its expression by putting the markers in for
themselves (`sourceText?`).
-/

namespace LoadScript.Script

open Ecma

def sourceText? (e : Expr) : Option String :=
  eval? (fun name => String.ofList (marker name.toList)) e

def memberTexts? (members : List (Key × Expr)) : Option (List (String × String)) :=
  members.mapM fun m => (sourceText? m.2).map fun text => (m.1.text, text)

/-- The fields of the form that the text of a call sends. -/
def sentFields? (text : String) : Option (List (String × String)) := do
  let sent ← (Expr.ofText? text).bind Sent.ofExpr?
  match sent.body with
  | some (.object members) => memberTexts? members
  | _ => none

theorem sourceText?_expr (text : String) :
    sourceText? (TextExpr.parse text).expr = some text := by
  rw [sourceText?, eval?_expr, fill_marker, String.ofList_toList]

theorem memberTexts?_expr (entries : List (String × String)) :
    memberTexts? (entries.map fun entry => (keyOf entry.1, (TextExpr.parse entry.2).expr))
      = some entries := by
  unfold memberTexts?
  induction entries with
  | nil => rfl
  | cons entry rest ih =>
      rw [List.map_cons, List.mapM_cons, sourceText?_expr, ih, Option.map_some, keyOf_text]
      rfl

/-- The text of the call for a form or a urlencoded body has the fields of the
body, all of them and in their order. -/
theorem sentFields?_callOf {t : Transaction} {fields : Fields}
    (h : t.body = .form fields ∨ t.body = .urlencoded fields) :
    sentFields? (callOf t).render = some fields.entries := by
  have hread : Expr.ofText? (callOf t).render = some (callOf t).expr :=
    Expr.ofText?_eq (canonical_callOf t).spells.lexes.tokens?_eq
  have hsent : Sent.ofExpr? (callOf t).expr = some (sentOf t) := bind?_callOf t
  have hbody : (sentOf t).body = some (fieldsExpr (fieldExprs fields)) := by
    rcases h with hform | hurlencoded
    · rw [sentOf, hform]
      rfl
    · rw [sentOf, hurlencoded]
      rfl
  have hmembers := memberTexts?_expr fields.entries
  rw [sentFields?, hread, Option.bind_some, hsent]
  show (match (sentOf t).body with
    | some (.object members) => memberTexts? members
    | _ => none) = _
  rw [hbody, fieldsExpr, objectOf, fieldExprs, List.map_map]
  exact hmembers

end LoadScript.Script

namespace LoadScript.Document

open Script

/-- The field lists that the mode of a body selects: a form without files, or a
urlencoded body. -/
inductive Body.Selects (body : Body) : List Entry → Prop where
  | formdata : body.mode = some "formdata" → (∀ field ∈ body.formdata, ¬ field.Uploads) →
      Selects body body.formdata
  | urlencoded : body.mode = some "urlencoded" → Selects body body.urlencoded

/-- The enabled entries of a field list as keys and texts. -/
def recordedFields (entries : List Entry) : List (String × String) :=
  (enabled entries).map fun entry => (entry.key, entry.text)

theorem Body.Selects.resolve {body : Body} {entries : List Entry} (h : body.Selects entries)
    (henabled : body.disabled = false) (name : String) :
    body.resolve name = .ok (.form (fieldsOf entries))
      ∨ body.resolve name = .ok (.urlencoded (fieldsOf entries)) := by
  cases h with
  | formdata hmode hfiles =>
      have hnone := find?_isFile_eq_none_iff.2 hfiles
      exact Or.inl (by simp [Body.resolve, henabled, hmode, hnone])
  | urlencoded hmode => exact Or.inr (by simp [Body.resolve, henabled, hmode])

namespace Request

section Replayed

variable {request : Request} {body : Body} {entries : List Entry}

/-- A request with a form has a transaction, and the transaction has the form. -/
theorem exists_transaction_fields (name : String) (hbody : request.body? = some body)
    (henabled : body.disabled = false) (hselects : body.Selects entries)
    (hmethod : Text.isBlankText request.method = false)
    (hurl : Text.isBlankText request.url = false) :
    ∃ t, request.transaction name = .ok t
      ∧ (t.body = .form (fieldsOf entries) ∨ t.body = .urlencoded (fieldsOf entries)) := by
  have hresolve : ∀ out, body.resolve name = .ok out →
      request.transaction name = .ok (request.transactionWith name out) := by
    intro out hout
    have hok : request.resolveBody name = .ok out := by
      rw [resolveBody, hbody]
      exact hout
    have hsupported := (exists_resolveBody_iff name request).1 ⟨out, hok⟩
    exact transaction_eq_ok_iff.2 ⟨⟨hsupported, hmethod, hurl⟩, out, hok, rfl⟩
  rcases hselects.resolve henabled name with hform | hurlencoded
  · exact ⟨_, hresolve _ hform, Or.inl rfl⟩
  · exact ⟨_, hresolve _ hurlencoded, Or.inr rfl⟩

/-- A request with a form or a urlencoded body has a call, and the fields in the
text of the call are the enabled entries of the form, merged where their keys
are equal. If no key repeats, they are the enabled entries. -/
theorem sentFields?_call (name : String) (hbody : request.body? = some body)
    (henabled : body.disabled = false) (hselects : body.Selects entries)
    (hmethod : Text.isBlankText request.method = false)
    (hurl : Text.isBlankText request.url = false) :
    ∃ t call fields, request.transaction name = .ok t ∧ Call.ofTransaction t = .ok call
      ∧ sentFields? call.render = some fields
      ∧ (∀ other, Merges (recordedFields entries) other ↔ other = fields)
      ∧ (((enabled entries).map Entry.key).Nodup → fields = recordedFields entries) := by
  obtain ⟨t, ht, hfields⟩ :=
    exists_transaction_fields name hbody henabled hselects hmethod hurl
  have hmerges : Merges (recordedFields entries) (fieldsOf entries).entries :=
    merges_ofList (recordedFields entries)
  refine ⟨t, callOf t, (fieldsOf entries).entries, ht, ofTransaction_eq_ok (check_transaction ht),
    sentFields?_callOf hfields, ?_, ?_⟩
  · intro other
    exact ⟨fun hother => hother.unique hmerges, fun heq => heq ▸ hmerges⟩
  · intro hkeys
    refine hmerges.eq_self ?_
    rw [recordedFields, List.map_map]
    exact hkeys

end Replayed

/-- A urlencoded body with a key that repeats and a field that is switched off. -/
def filters : Body where
  mode := some "urlencoded"
  raw := none
  urlencoded := [⟨"tag", .string "a", false, none⟩, ⟨"by", .string "\x7b\x7buser\x7d\x7d", false, none⟩,
    ⟨"page", .null, true, none⟩, ⟨"tag", .string "b", false, none⟩]
  formdata := []
  disabled := false

def search : Request :=
  .full ⟨some "post", some (.plain "http://api.test/search"), [], some filters⟩

theorem sentFields?_call_search :
    (search.body? = some filters ∧ filters.disabled = false
      ∧ filters.Selects filters.urlencoded ∧ Text.isBlankText search.method = false
      ∧ Text.isBlankText search.url = false)
    ∧ ∃ t call fields, search.transaction "search" = .ok t ∧ Call.ofTransaction t = .ok call
      ∧ sentFields? call.render = some fields
      ∧ (∀ other, Merges (recordedFields filters.urlencoded) other ↔ other = fields)
      ∧ (((enabled filters.urlencoded).map Entry.key).Nodup →
          fields = recordedFields filters.urlencoded) :=
  ⟨⟨rfl, rfl, .urlencoded rfl, by decide, by decide⟩,
    sentFields?_call "search" rfl rfl (.urlencoded rfl) (by decide) (by decide)⟩

/-- Of a key that repeats, only one field is sent. -/
theorem sentFields?_search_ne :
    (search.body? = some filters ∧ filters.disabled = false
      ∧ filters.Selects filters.urlencoded ∧ Text.isBlankText search.method = false
      ∧ Text.isBlankText search.url = false)
    ∧ ¬ ∃ t call, search.transaction "search" = .ok t ∧ Call.ofTransaction t = .ok call
      ∧ sentFields? call.render = some (recordedFields filters.urlencoded) := by
  refine ⟨⟨rfl, rfl, .urlencoded rfl, by decide, by decide⟩, ?_⟩
  rintro ⟨t, call, ht, hcall, hsent⟩
  obtain ⟨u, hu, hfields⟩ := @exists_transaction_fields search filters filters.urlencoded "search"
    rfl rfl (.urlencoded rfl) (by decide) (by decide)
  obtain rfl : t = u := Except.ok.inj (ht.symm.trans hu)
  obtain rfl : call = callOf t :=
    Except.ok.inj (hcall.symm.trans (ofTransaction_eq_ok (check_transaction ht)))
  rw [sentFields?_callOf hfields, Option.some.injEq] at hsent
  exact absurd (congrArg List.length hsent) (by decide)

end Request

end LoadScript.Document
