import LoadScript.Proofs.Interpolation
import LoadScript.Proofs.Object

/-!
# A call sends what was recorded

The arguments of a call are told apart by their place, and which place means
what depends on the function: `http.get` takes parameters where `http.post`
takes a body, and `http.request` has a method in front. So a call is read here
in two steps. Its text is read as an expression, whichever of the two layouts
it has (`Call.Canonical.spells`), and the arguments are bound to the signature
of the function (`Sent.bind?`).

The main theorem says of every complete transaction that its call, read in this
way, sends the recorded method to the recorded URL with the recorded body, and
that nothing stands in a wrong place.
-/

namespace LoadScript.Script

open Ecma

/-! ## A call as an expression -/

def fieldsExpr (fields : List (String × TextExpr)) : Expr :=
  objectOf Prod.fst (fun field => field.2.expr) fields

def contentTypeExpr : Expr :=
  .object [(.bare "headers",
    .object [(.quoted "Content-Type", .string "application/x-www-form-urlencoded")])]

def Callee.arguments : Callee → List Expr
  | request method => [.string method]
  | _ => []

def Payload.bodyExpr? : Payload → Option Expr
  | absent => none
  | text e => some e.expr
  | form fields => some (fieldsExpr fields)
  | urlencoded fields => some (fieldsExpr fields)

def Payload.paramsExpr? : Payload → Option Expr
  | urlencoded _ => some contentTypeExpr
  | _ => none

def Call.arguments (call : Call) : List Expr :=
  call.callee.arguments ++ call.url.expr
    :: (call.payload.bodyExpr?.toList ++ call.payload.paramsExpr?.toList)

def Call.expr (call : Call) : Expr :=
  .call (.property (.name "http") call.callee.name) call.arguments

/-- Calls whose texts are canonical. -/
def Payload.Canonical : Payload → Prop
  | absent => True
  | text e => e.Canonical
  | form fields => ∀ field ∈ fields, field.2.Canonical
  | urlencoded fields => ∀ field ∈ fields, field.2.Canonical

@[inherit_doc Payload.Canonical]
def Call.Canonical (call : Call) : Prop := call.url.Canonical ∧ call.payload.Canonical

theorem canonical_ofBody (body : Body) : (Payload.ofBody body).Canonical := by
  have hfields : ∀ fields : Fields, ∀ field ∈ fieldExprs fields, field.2.Canonical := by
    intro fields field hfield
    obtain ⟨entry, _, rfl⟩ := List.mem_map.1 hfield
    exact canonical_parse entry.2
  cases body with
  | absent => trivial
  | raw text => exact canonical_parse text
  | form fields => exact hfields fields
  | urlencoded fields => exact hfields fields

def callOf (t : Transaction) : Call where
  callee := Callee.ofMethod t.method (Payload.ofBody t.body).isPresent
  url := TextExpr.parse t.url
  payload := Payload.ofBody t.body

theorem ofTransaction_eq_ok {t : Transaction} (h : t.check = .ok ()) :
    Call.ofTransaction t = .ok (callOf t) := by
  rw [Call.ofTransaction, h]
  rfl

theorem canonical_callOf (t : Transaction) : (callOf t).Canonical :=
  ⟨canonical_parse t.url, canonical_ofBody t.body⟩

/-! ## What a call spells -/

theorem spells_function (callee : Callee) :
    Spells ("http." ++ callee.name ++ "(")
      [.name "http", .punctuator ".", .name callee.name, .punctuator "("] := by
  cases callee with
  | get => exact fun _ => rfl
  | head => exact fun _ => rfl
  | post => exact fun _ => rfl
  | put => exact fun _ => rfl
  | patch => exact fun _ => rfl
  | del => exact fun _ => rfl
  | options => exact fun _ => rfl
  | request method =>
      rw [Callee.name]
      exact fun _ => rfl

theorem call_tokens (function : String) (elements : List Expr) :
    (Expr.call (.property (.name "http") function) elements).tokens
      = [.name "http", .punctuator ".", .name function, .punctuator "("]
        ++ [.punctuator ","].intercalate (elements.map Expr.tokens) ++ [.punctuator ")"] := by
  rw [Expr.tokens, listTokens_eq, Expr.tokens, Expr.tokens]
  simp

section Layouts

variable (call : Call) {arguments : List (String × Expr)}

theorem spells_renderInline (h : ∀ a ∈ arguments, Lexes a.1 a.2.tokens) :
    Spells (call.renderInline (arguments.map Prod.fst))
      (Expr.call (.property (.name "http") call.callee.name)
        (arguments.map Prod.snd)).tokens := by
  have hcomma : Spells ", " [.punctuator ","] := fun _ => rfl
  have hclose : Spells ")" [.punctuator ")"] := fun _ => rfl
  have hlist := Lexes.intercalate hcomma ⟨',', by decide, [' '], rfl⟩ h
  rw [call_tokens, List.map_map]
  exact ((spells_function call.callee).append_lexes hlist).append_spells
    ⟨')', by decide, [], rfl⟩ hclose

theorem spells_renderBlock (h : ∀ a ∈ arguments, Lexes a.1 a.2.tokens) :
    Spells (call.renderBlock (arguments.map Prod.fst))
      (Expr.call (.property (.name "http") call.callee.name)
        (arguments.map Prod.snd)).tokens := by
  have hcomma : Spells ",\n" [.punctuator ","] := fun _ => rfl
  have hbreak : Spells "\n" [] := fun _ => rfl
  have hindent : Spells "    " [] := fun _ => rfl
  have hclose : Spells "\n  )" [.punctuator ")"] := fun _ => rfl
  have hlist := Lexes.intercalate hcomma ⟨',', by decide, ['\n'], rfl⟩
    fun a ha => hindent.append_lexes (h a ha)
  have hfront := (spells_function call.callee).append hbreak
  have htext : "http." ++ call.callee.name ++ "(\n"
      = "http." ++ call.callee.name ++ "(" ++ "\n" := by
    simp [String.append_assoc]
  rw [call_tokens, List.map_map, Call.renderBlock, List.map_map, htext]
  exact (hfront.append_lexes hlist).append_spells ⟨'\n', by decide, [' ', ' ', ')'], rfl⟩ hclose

end Layouts

theorem spells_urlencodedParams : Spells urlencodedParams contentTypeExpr.tokens := by
  have hbare : keyOf "headers" = .bare "headers" := by decide
  have hquoted : keyOf "Content-Type" = .quoted "Content-Type" := by decide
  have hheader : ∀ key ∈ ["Content-Type"], Lexes (quote "application/x-www-form-urlencoded")
      (Expr.string "application/x-www-form-urlencoded").tokens :=
    fun _ _ => (spells_quote _).lexes
  have hheaders := @spells_blockObject _ id _ (fun _ => .string _) _ "      " (fun _ => rfl) hheader
  have hparam := @spells_blockObject _ id _ (fun _ => _) ["headers"] "    " (fun _ => rfl)
    fun _ _ => hheaders.lexes
  simp only [objectOf, List.map_cons, List.map_nil, id_eq, hbare, hquoted] at hparam
  exact hparam

theorem spells_fields {fields : List (String × TextExpr)}
    (h : ∀ field ∈ fields, field.2.Canonical) :
    Spells (inlineObject (fieldMembers fields)) (fieldsExpr fields).tokens
      ∧ Spells (blockObject "  " (fieldMembers fields)) (fieldsExpr fields).tokens := by
  have hvalue : ∀ field ∈ fields, Lexes field.2.render field.2.expr.tokens :=
    fun field hfield => (h field hfield).spells.lexes
  exact ⟨spells_inlineObject hvalue, spells_blockObject (fun _ => rfl) hvalue⟩

/-- The arguments in front of the body, as texts and as expressions. -/
theorem leading_eq {call : Call} (h : call.url.Canonical) :
    ∃ arguments : List (String × Expr), (∀ a ∈ arguments, Lexes a.1 a.2.tokens)
      ∧ call.leading = arguments.map Prod.fst
      ∧ call.callee.arguments ++ [call.url.expr] = arguments.map Prod.snd := by
  have hurl : Lexes call.url.render call.url.expr.tokens := h.spells.lexes
  cases hcallee : call.callee with
  | request method =>
      refine ⟨[(quote method, .string method), (call.url.render, call.url.expr)], ?_, ?_, rfl⟩
      · intro a ha
        simp only [List.mem_cons, List.not_mem_nil, or_false] at ha
        rcases ha with rfl | rfl
        · exact (spells_quote method).lexes
        · exact hurl
      · rw [Call.leading, hcallee]
        rfl
  | _ =>
      refine ⟨[(call.url.render, call.url.expr)], ?_, ?_, rfl⟩
      · intro a ha
        rw [List.mem_singleton.1 ha]
        exact hurl
      · rw [Call.leading, hcallee]
        rfl

/-- In either layout, the text of a call spells the call. -/
theorem Call.Canonical.spells {call : Call} (h : call.Canonical) :
    Spells call.render call.expr.tokens := by
  obtain ⟨leading, hlex, htexts, hexprs⟩ := leading_eq h.1
  have hpayload := h.2
  have hinline : ∀ text e, Lexes text e.tokens →
      Spells (call.renderInline (call.leading ++ [text]))
        (Expr.call (.property (.name "http") call.callee.name)
          (call.callee.arguments ++ [call.url.expr] ++ [e])).tokens := by
    intro text e he
    have hmore : ∀ a ∈ [(text, e)], Lexes a.1 a.2.tokens := by simpa using he
    have hcall := spells_renderInline call (List.forall_mem_append.2 ⟨hlex, hmore⟩)
    rw [htexts, hexprs]
    simpa using hcall
  rw [Call.render, Call.expr, Call.arguments]
  cases hp : call.payload with
  | absent =>
      have hcall := spells_renderInline call hlex
      rw [← htexts, ← hexprs] at hcall
      exact hcall
  | text e =>
      rw [hp] at hpayload
      have hcall := hinline _ _ (TextExpr.Canonical.spells hpayload).lexes
      rw [List.append_assoc] at hcall
      exact hcall
  | form fields =>
      rw [hp] at hpayload
      have hcall := hinline _ _ (spells_fields hpayload).2.lexes
      rw [List.append_assoc] at hcall
      exact hcall
  | urlencoded fields =>
      rw [hp] at hpayload
      have hmore : ∀ a ∈ [(inlineObject (fieldMembers fields), fieldsExpr fields),
          (urlencodedParams, contentTypeExpr)], Lexes a.1 a.2.tokens := by
        intro a ha
        simp only [List.mem_cons, List.not_mem_nil, or_false] at ha
        rcases ha with rfl | rfl
        · exact (spells_fields hpayload).1.lexes
        · exact spells_urlencodedParams.lexes
      have hcall := spells_renderBlock call (List.forall_mem_append.2 ⟨hlex, hmore⟩)
      rw [List.map_append, List.map_append, ← htexts, ← hexprs, List.append_assoc] at hcall
      exact hcall

/-! ## What a call sends -/

structure Sent where
  verb : String
  url : Expr
  body : Option Expr
  params : Option Expr

namespace Sent

/-- The arguments of a function that takes a URL and parameters. -/
def bodiless? (verb : String) : List Expr → Option Sent
  | [url] => some ⟨verb, url, none, none⟩
  | [url, params] => some ⟨verb, url, none, some params⟩
  | _ => none

/-- The arguments of a function that takes a URL, a body and parameters. -/
def embodied? (verb : String) : List Expr → Option Sent
  | [url] => some ⟨verb, url, none, none⟩
  | [url, body] => some ⟨verb, url, some body, none⟩
  | [url, body, params] => some ⟨verb, url, some body, some params⟩
  | _ => none

/-- The arguments of a function of the `http` module, bound to its signature. -/
def bind? (function : String) (arguments : List Expr) : Option Sent :=
  match function, arguments with
  | "get", arguments => bodiless? "GET" arguments
  | "head", arguments => bodiless? "HEAD" arguments
  | "post", arguments => embodied? "POST" arguments
  | "put", arguments => embodied? "PUT" arguments
  | "patch", arguments => embodied? "PATCH" arguments
  | "del", arguments => embodied? "DELETE" arguments
  | "options", arguments => embodied? "OPTIONS" arguments
  | "request", .string method :: arguments => embodied? method arguments
  | _, _ => none

def ofExpr? : Expr → Option Sent
  | .call (.property (.name "http") function) arguments => bind? function arguments
  | _ => none

end Sent

/-- Parameters stand behind a body only. -/
theorem embodied?_payload (verb : String) (url : Expr) (payload : Payload) :
    Sent.embodied? verb (url :: (payload.bodyExpr?.toList ++ payload.paramsExpr?.toList))
      = some ⟨verb, url, payload.bodyExpr?, payload.paramsExpr?⟩ := by
  cases payload with
  | absent => rfl
  | text e => rfl
  | form fields => rfl
  | urlencoded fields => rfl

theorem isPresent_eq_false {payload : Payload} (h : payload.isPresent = false) :
    payload = .absent := by
  cases payload with
  | absent => rfl
  | _ => exact Bool.noConfusion h

/-- What the function for a method sends: that method, whatever the payload. The
functions without a body are chosen for an absent payload only. -/
theorem bind?_ofMethod (method : String) (url : Expr) (payload : Payload) :
    Sent.bind? (Callee.ofMethod method payload.isPresent).name
        ((Callee.ofMethod method payload.isPresent).arguments ++ url
          :: (payload.bodyExpr?.toList ++ payload.paramsExpr?.toList))
      = some ⟨sentMethod method, url, payload.bodyExpr?, payload.paramsExpr?⟩ := by
  unfold Callee.ofMethod
  split
  · next hverb hpresent =>
      rw [isPresent_eq_false hpresent, hverb]
      rfl
  · next hverb hpresent =>
      rw [isPresent_eq_false hpresent, hverb]
      rfl
  · next hverb => rw [hverb]; exact embodied?_payload _ url payload
  · next hverb => rw [hverb]; exact embodied?_payload _ url payload
  · next hverb => rw [hverb]; exact embodied?_payload _ url payload
  · next hverb => rw [hverb]; exact embodied?_payload _ url payload
  · next hverb => rw [hverb]; exact embodied?_payload _ url payload
  · exact embodied?_payload _ url payload

def sentOf (t : Transaction) : Sent :=
  ⟨sentMethod t.method, (TextExpr.parse t.url).expr, (Payload.ofBody t.body).bodyExpr?,
    (Payload.ofBody t.body).paramsExpr?⟩

theorem bind?_callOf (t : Transaction) :
    Sent.bind? (callOf t).callee.name (callOf t).arguments = some (sentOf t) := by
  simp only [Call.arguments, sentOf, callOf]
  exact bind?_ofMethod t.method _ _

theorem bodiless_name {callee : Callee} (h : callee.name = "get" ∨ callee.name = "head") :
    callee = .get ∨ callee = .head := by
  cases callee with
  | get => exact Or.inl rfl
  | head => exact Or.inr rfl
  | _ => simp [Callee.name] at h

theorem bodiless_ofMethod {method : String} {hasBody : Bool}
    (h : Callee.ofMethod method hasBody = .get ∨ Callee.ofMethod method hasBody = .head) :
    hasBody = false := by
  unfold Callee.ofMethod at h
  split at h
  · rfl
  · rfl
  all_goals simp at h

/-- A function without a body is called with the URL alone. -/
theorem arguments_bodiless {t : Transaction}
    (h : (callOf t).callee.name = "get" ∨ (callOf t).callee.name = "head") :
    (callOf t).arguments = [(sentOf t).url] := by
  have hcallee := bodiless_name h
  have hpayload : Payload.ofBody t.body = .absent := by
    simp only [callOf] at hcallee
    exact isPresent_eq_false (bodiless_ofMethod hcallee)
  have harguments : (callOf t).arguments = (callOf t).callee.arguments ++ [(sentOf t).url] := by
    simp only [Call.arguments, callOf, hpayload, sentOf]
    rfl
  rw [harguments]
  rcases hcallee with hget | hhead
  · rw [hget]
    rfl
  · rw [hhead]
    rfl

/-! ## What was recorded, from what is sent -/

theorem fieldsExpr_fieldExprs (fields : Fields) :
    fieldsExpr (fieldExprs fields)
      = objectOf Prod.fst (fun f => (TextExpr.parse f.2).expr) fields.entries := by
  rw [fieldsExpr, fieldExprs, objectOf, objectOf, List.map_map]
  rfl

theorem fieldsExpr_inj {fields others : Fields}
    (h : fieldsExpr (fieldExprs fields) = fieldsExpr (fieldExprs others)) : fields = others := by
  rw [fieldsExpr_fieldExprs, fieldsExpr_fieldExprs] at h
  refine OrderedMap.ext (objectOf_inj (fun x y hname hvalue => ?_) h)
  exact Prod.ext hname (expr_parse_inj hvalue)

/-- No text is written as an object. -/
theorem expr_ne_fieldsExpr (e : TextExpr) (fields : List (String × TextExpr)) :
    e.expr ≠ fieldsExpr fields := by
  cases e with
  | plain text => exact Expr.noConfusion
  | template segments => exact Expr.noConfusion

/-- Bodies are told apart by what is sent for them. -/
theorem ofBody_inj {body other : Body}
    (hbody : (Payload.ofBody body).bodyExpr? = (Payload.ofBody other).bodyExpr?)
    (hparams : (Payload.ofBody body).paramsExpr? = (Payload.ofBody other).paramsExpr?) :
    body = other := by
  cases body with
  | absent =>
      cases other with
      | absent => rfl
      | _ => exact absurd hbody (by simp [Payload.ofBody, Payload.bodyExpr?])
  | raw text =>
      cases other with
      | absent => exact absurd hbody (by simp [Payload.ofBody, Payload.bodyExpr?])
      | raw more => rw [expr_parse_inj (Option.some.inj hbody)]
      | _ => exact absurd (Option.some.inj hbody) (expr_ne_fieldsExpr _ _)
  | form fields =>
      cases other with
      | absent => exact absurd hbody (by simp [Payload.ofBody, Payload.bodyExpr?])
      | raw text => exact absurd (Option.some.inj hbody).symm (expr_ne_fieldsExpr _ _)
      | form others => rw [fieldsExpr_inj (Option.some.inj hbody)]
      | urlencoded others => exact absurd hparams (by simp [Payload.ofBody, Payload.paramsExpr?])
  | urlencoded fields =>
      cases other with
      | absent => exact absurd hbody (by simp [Payload.ofBody, Payload.bodyExpr?])
      | raw text => exact absurd (Option.some.inj hbody).symm (expr_ne_fieldsExpr _ _)
      | form others => exact absurd hparams (by simp [Payload.ofBody, Payload.paramsExpr?])
      | urlencoded others => rw [fieldsExpr_inj (Option.some.inj hbody)]

/-- Transactions with the same call have the same method, URL and body. -/
theorem callOf_expr_inj {t u : Transaction} (h : (callOf t).expr = (callOf u).expr) :
    sentMethod t.method = sentMethod u.method ∧ t.url = u.url ∧ t.body = u.body := by
  obtain ⟨hfunction, harguments⟩ := Expr.call.inj h
  have hsent := bind?_callOf t
  rw [(Expr.property.inj hfunction).2, harguments, bind?_callOf u, Option.some.injEq] at hsent
  obtain ⟨hmethod, hurl, hbody, hparams⟩ := Sent.mk.inj hsent
  exact ⟨hmethod.symm, expr_parse_inj hurl.symm, ofBody_inj hbody.symm hparams.symm⟩

/-! ## Every argument in its place -/

/-- What stands in the place of the body, for a recorded body. -/
inductive BodySlot : Body → Option Expr → Prop where
  | absent : BodySlot .absent none
  | raw {text : String} {e : Expr} (h : Expr.ofText? (TextExpr.parse text).render = some e) :
      BodySlot (.raw text) (some e)
  | form {fields : Fields} {members : List (Key × Expr)}
      (h : (members.map fun m => (m.1.text, some m.2))
        = fields.entries.map fun f => (f.1, Expr.ofText? (TextExpr.parse f.2).render)) :
      BodySlot (.form fields) (some (.object members))
  | urlencoded {fields : Fields} {members : List (Key × Expr)}
      (h : (members.map fun m => (m.1.text, some m.2))
        = fields.entries.map fun f => (f.1, Expr.ofText? (TextExpr.parse f.2).render)) :
      BodySlot (.urlencoded fields) (some (.object members))

theorem fieldExprs_members (fields : Fields) :
    ((fieldExprs fields).map fun f => ((keyOf f.1).text, some f.2.expr))
      = fields.entries.map fun f => (f.1, Expr.ofText? (TextExpr.parse f.2).render) := by
  rw [fieldExprs, List.map_map]
  refine List.map_congr_left fun entry _ => ?_
  rw [ofText?_render, Function.comp_apply, keyOf_text]

theorem bodySlot_ofBody (body : Body) : BodySlot body (Payload.ofBody body).bodyExpr? := by
  have hmembers : ∀ fields : Fields,
      (((fieldExprs fields).map fun f => (keyOf f.1, f.2.expr)).map
          fun m => (m.1.text, some m.2))
        = fields.entries.map fun f => (f.1, Expr.ofText? (TextExpr.parse f.2).render) := by
    intro fields
    rw [List.map_map]
    exact fieldExprs_members fields
  cases body with
  | absent => exact .absent
  | raw text => exact .raw (ofText?_render text)
  | form fields => exact .form (hmembers fields)
  | urlencoded fields => exact .urlencoded (hmembers fields)

theorem bodyExpr?_eq_none_iff (body : Body) :
    (Payload.ofBody body).bodyExpr? = none ↔ body = .absent := by
  cases body with
  | absent => exact ⟨fun _ => rfl, fun _ => rfl⟩
  | _ => simp [Payload.ofBody, Payload.bodyExpr?]

theorem paramsExpr?_eq_some_iff (body : Body) (params : Expr) :
    (Payload.ofBody body).paramsExpr? = some params ↔
      (∃ fields, body = .urlencoded fields) ∧ params = contentTypeExpr := by
  cases body with
  | urlencoded fields => simp [Payload.ofBody, Payload.paramsExpr?, eq_comm]
  | _ => simp [Payload.ofBody, Payload.paramsExpr?]

/-- The function and the arguments of a call send what a transaction recorded. -/
structure SentFor (t : Transaction) (function : String) (arguments : List Expr) (sent : Sent) :
    Prop where
  bound : Sent.bind? function arguments = some sent
  verb : sent.verb = Text.upperAscii (Text.trim t.method)
  url : Expr.ofText? (TextExpr.parse t.url).render = some sent.url
  body : BodySlot t.body sent.body
  bodyAbsent : sent.body = none ↔ t.body = .absent
  params : ∀ params, sent.params = some params ↔
    (∃ fields, t.body = .urlencoded fields) ∧ params = contentTypeExpr
  bodiless : function = "get" ∨ function = "head" → arguments = [sent.url]

/-- A complete transaction has a call. The text of the call is read as a call of
a function of the `http` module, and that function sends what was recorded. -/
theorem ofText?_call_sentFor (t : Transaction) (h : t.check = .ok ()) :
    ∃ call function arguments sent, Call.ofTransaction t = .ok call
      ∧ Expr.ofText? call.render
          = some (.call (.property (.name "http") function) arguments)
      ∧ SentFor t function arguments sent := by
  have hread : Expr.ofText? (callOf t).render = some (callOf t).expr :=
    Expr.ofText?_eq (canonical_callOf t).spells.lexes.tokens?_eq
  refine ⟨callOf t, (callOf t).callee.name, (callOf t).arguments, sentOf t,
    ofTransaction_eq_ok h, hread, ?_⟩
  exact {
    bound := bind?_callOf t
    verb := rfl
    url := ofText?_render t.url
    body := bodySlot_ofBody t.body
    bodyAbsent := bodyExpr?_eq_none_iff t.body
    params := paramsExpr?_eq_some_iff t.body
    bodiless := arguments_bodiless }

/-- A transaction with a method in small letters between blanks, a marker in the
URL and a urlencoded body. -/
def deletion : Transaction where
  name := "delete"
  method := "\u2003delete\n"
  url := "http://\x7b\x7bhost\x7d\x7d/"
  headers := OrderedMap.ofList [("Content-Type", "text/plain")]
  body := .urlencoded (OrderedMap.ofList [("id", "$\x7b\x7bid\x7d\x7d"), ("a b", "\"\n")])

def deletionCall : Call where
  callee := .del
  url := .template [.literal "http://", .reference "host", .literal "/"]
  payload := .urlencoded
    [("id", .template [.literal "$", .reference "id"]), ("a b", .plain "\"\n")]

def deletionUrl : Expr := .template "http://" [(lookup "host", "/")]

def deletionBody : Expr :=
  .object [(.bare "id", .template "$" [(lookup "id", "")]), (.quoted "a b", .string "\"\n")]

theorem deletion_sentFor :
    deletion.check = .ok ()
      ∧ Call.ofTransaction deletion = .ok deletionCall
      ∧ Expr.ofText? deletionCall.render
          = some (.call (.property (.name "http") "del")
            [deletionUrl, deletionBody, contentTypeExpr])
      ∧ SentFor deletion "del" [deletionUrl, deletionBody, contentTypeExpr]
          ⟨"DELETE", deletionUrl, some deletionBody, some contentTypeExpr⟩ := by
  have hsame : callOf deletion = deletionCall := by decide +kernel
  have hcall : Call.ofTransaction deletion = .ok deletionCall := hsame ▸ ofTransaction_eq_ok rfl
  have hread : Expr.ofText? deletionCall.render = some deletionCall.expr :=
    hsame ▸ Expr.ofText?_eq (canonical_callOf deletion).spells.lexes.tokens?_eq
  obtain ⟨call, function, arguments, sent, hcall', hread', hsent⟩ :=
    ofText?_call_sentFor deletion rfl
  obtain rfl : deletionCall = call := Except.ok.inj (hcall.symm.trans hcall')
  obtain ⟨hfunction, rfl⟩ := Expr.call.inj (Option.some.inj (hread.symm.trans hread'))
  obtain rfl : "del" = function := (Expr.property.inj hfunction).2
  have harguments : deletionCall.arguments = [deletionUrl, deletionBody, contentTypeExpr] := by
    have hbare : keyOf "id" = .bare "id" := by decide
    have hquoted : keyOf "a b" = .quoted "a b" := by decide
    rw [deletionBody, ← hbare, ← hquoted]
    rfl
  rw [harguments] at hread' hsent
  obtain rfl := Option.some.inj hsent.bound
  exact ⟨rfl, hcall, hread', hsent⟩

end LoadScript.Script
