import LoadScript.Proofs.Stages

/-!
# What does not reach a script

A collection document holds much that no script is made of: its metadata, the
names of its items, headers, whatever is switched off, the bodies that the mode
does not select, and the parts of a URL that is also recorded as one text.
Erasing all that (`Document.erase`) leaves a document that loads alike and has
the same script. So two documents with the same erasure cannot be told apart by
their scripts, nor by the kind of error that is told instead.

Names do show in errors. So outcomes are compared after names and headers are
taken from them too (`stripped`), and the proof is an equation: what is left of
the outcome for a document is what is left of the outcome for its erasure
(`stripped_ofDocument`). Equal erasures then give equal remains, and from these
a script is the same.
-/

namespace LoadScript

namespace Document

/-! ## Erasing -/

/-- A URL that is recorded as one text needs no parts, and else none that are
switched off. -/
def UrlParts.erase (parts : UrlParts) : UrlParts :=
  match parts.raw with
  | none => { parts with query := parts.query.filter fun entry => !entry.disabled }
  | some raw =>
    if raw = "" then { parts with query := parts.query.filter fun entry => !entry.disabled }
    else
      { raw := some raw, protocol := none, host := none, port := none, path := none,
        query := [], hash := none }

def Url.erase : Url → Url
  | .plain text => .plain text
  | .structured parts => .structured parts.erase

/-- A body that is switched off is dropped, and of another one all but the
alternative that the mode selects. -/
def Body.erase (body : Body) : Option Body :=
  if body.disabled then none
  else some
    { mode := body.mode
      raw := if body.mode = some "raw" then body.raw else none
      urlencoded := if body.mode = some "urlencoded" then enabled body.urlencoded else []
      formdata := if body.mode = some "formdata" then enabled body.formdata else []
      disabled := false }

def Request.erase : Request → Request
  | .bare url => .bare url
  | .full request => .full
    { method := request.method
      url := request.url.map Url.erase
      headers := []
      body := request.body.bind Body.erase }

mutual

def Item.erase : Item → Item
  | .mk _ request none => .mk none (request.map Request.erase) none
  | .mk _ request (some items) => .mk none (request.map Request.erase) (some (eraseAll items))

def eraseAll : List Item → List Item
  | [] => []
  | item :: rest => item.erase :: eraseAll rest

end

end Document

/-- A document without what no script is made of. -/
def Document.erase (document : Document) : Document where
  info := none
  items := Document.eraseAll document.items
  vars := Document.enabled document.vars

/-! ## Outcomes without names -/

inductive Error.Kind where
  | unparsable
  | missingFile
  | unsupportedBody
  | invalid
  | unwritable
  deriving DecidableEq, Repr

namespace Error

def kind : Error → Kind
  | malformedCollection | malformedVariables _ | malformedRows _ | missingHeader _ => .unparsable
  | unreadable .. => .missingFile
  | fileField .. | bodyMode .. => .unsupportedBody
  | missingMethod _ | missingUrl _ | twoDataFiles => .invalid
  | unwritable _ => .unwritable

/-- An error without the name of the request that it is about. -/
def unnamed : Error → Error
  | fileField key _ => fileField key ""
  | bodyMode mode _ => bodyMode mode ""
  | missingMethod _ => missingMethod ""
  | missingUrl _ => missingUrl ""
  | error => error

theorem kind_unnamed (error : Error) : error.unnamed.kind = error.kind := by
  cases error <;> rfl

end Error

def Transaction.strip (t : Transaction) : Transaction := { t with name := "", headers := ∅ }

def Collection.strip (collection : Collection) : Collection where
  name := none
  transactions := collection.transactions.map Transaction.strip
  vars := collection.vars

/-- What is left of an outcome without names. -/
def stripped {α : Type} (strip : α → α) : Except Error α → Except Error α
  | .ok a => .ok (strip a)
  | .error error => .error error.unnamed

/-- Outcomes of which the same is left are both errors or both none. -/
theorem of_stripped_eq {α : Type} {strip : α → α} {first second : Except Error α}
    (h : stripped strip first = stripped strip second) :
    (∃ error other, first = .error error ∧ second = .error other
        ∧ error.unnamed = other.unnamed)
      ∨ ∃ a b, first = .ok a ∧ second = .ok b ∧ strip a = strip b := by
  cases first with
  | error error =>
      cases second with
      | error other => exact Or.inl ⟨error, other, rfl, rfl, Except.error.inj h⟩
      | ok b => cases h
  | ok a =>
      cases second with
      | error other => cases h
      | ok b => exact Or.inr ⟨a, b, rfl, rfl, Except.ok.inj h⟩

theorem stripped_mapM {α β : Type} (f : α → Except Error β) (strip : β → β) (xs : List α) :
    stripped (List.map strip) (xs.mapM f) = xs.mapM fun x => stripped strip (f x) := by
  induction xs with
  | nil => rfl
  | cons x rest ih =>
      rw [mapM_cons_eq, mapM_cons_eq, ← ih]
      cases f x with
      | error error => rfl
      | ok y => cases rest.mapM f <;> rfl

namespace Document

/-! ## One request -/

theorem enabled_enabled (entries : List Entry) : enabled (enabled entries) = enabled entries := by
  rw [enabled, enabled, List.filter_filter]
  simp only [Bool.and_self]

theorem fieldsOf_enabled (entries : List Entry) :
    fieldsOf (enabled entries) = fieldsOf entries := by
  rw [fieldsOf, enabled_enabled, fieldsOf]

theorem text?_erase (url : Url) : url.erase.text? = url.text? := by
  -- a filter that is applied twice
  have hassemble : ∀ parts : UrlParts,
      UrlParts.assemble? { parts with query := parts.query.filter fun entry => !entry.disabled }
        = parts.assemble? := by
    intro parts
    have hquery : UrlParts.queryTexts
        { parts with query := parts.query.filter fun entry => !entry.disabled }
          = parts.queryTexts := by
      simp only [UrlParts.queryTexts, List.filter_filter, Bool.and_self]
    simp only [UrlParts.assemble?, hquery]
    rfl
  cases url with
  | plain text => rfl
  | structured parts =>
      rw [Url.erase, UrlParts.erase, Url.text?, Url.text?]
      cases hraw : parts.raw with
      | none =>
          exact hassemble parts
      | some raw =>
          by_cases hempty : raw = ""
          · simp only [hempty, if_true]
            exact hassemble parts
          · simp only [hempty, if_false]

section Resolve

variable {body : Body} (h : body.disabled = false) (name : String)
include h

theorem resolve_formdata (hmode : body.mode = some "formdata") :
    body.resolve name
      = match (enabled body.formdata).find? Entry.isFile with
        | some field => .error (.fileField field.key name)
        | none => .ok (.form (fieldsOf body.formdata)) := by
  rw [Body.resolve, h, hmode]
  rfl

theorem resolve_urlencoded (hmode : body.mode = some "urlencoded") :
    body.resolve name = .ok (.urlencoded (fieldsOf body.urlencoded)) := by
  rw [Body.resolve, h, hmode]
  rfl

/-- Only the enabled entries of the selected alternative decide what a body comes
to. The name of its request stands in the error. -/
theorem stripped_resolve_erase :
    ∃ erased, body.erase = some erased
      ∧ stripped id (erased.resolve "") = stripped id (body.resolve name) := by
  refine ⟨_, by rw [Body.erase, h]; rfl, ?_⟩
  cases hmode : body.mode with
  | none => rw [Body.resolve, Body.resolve, h, hmode]
  | some mode =>
      by_cases hraw : mode = "raw"
      · subst hraw
        rw [Body.resolve, Body.resolve, h, hmode]
        rfl
      by_cases hform : mode = "formdata"
      · subst hform
        rw [resolve_formdata rfl _ rfl, resolve_formdata h name hmode]
        dsimp only
        rw [if_pos rfl, enabled_enabled, fieldsOf_enabled]
        cases (enabled body.formdata).find? Entry.isFile <;> rfl
      by_cases hurlencoded : mode = "urlencoded"
      · subst hurlencoded
        rw [resolve_urlencoded rfl _ rfl, resolve_urlencoded h name hmode]
        dsimp only
        rw [if_pos rfl, fieldsOf_enabled]
      · simp [Body.resolve, h, hmode, hraw, hform, hurlencoded, stripped, Error.unnamed]

end Resolve

theorem stripped_resolveBody_erase (name : String) (request : Request) :
    stripped id (request.erase.resolveBody "") = stripped id (request.resolveBody name) := by
  cases request with
  | bare url => rfl
  | full request =>
      cases hbody : request.body with
      | none =>
          rw [Request.erase, Request.resolveBody, Request.resolveBody, Request.body?,
            Request.body?, hbody]
          rfl
      | some body =>
          rw [Request.erase, Request.resolveBody, Request.resolveBody, Request.body?,
            Request.body?, hbody, Option.bind_some]
          cases hdisabled : body.disabled with
          | true =>
              have herased : body.erase = none := by rw [Body.erase, hdisabled]; rfl
              have hresolve : body.resolve name = .ok .absent := by
                rw [Body.resolve, hdisabled]; rfl
              rw [herased]
              exact congrArg (stripped id) hresolve.symm
          | false =>
              obtain ⟨erased, herased, hsame⟩ := stripped_resolve_erase hdisabled name
              rw [herased]
              exact hsame

theorem method_erase (request : Request) : request.erase.method = request.method := by
  cases request <;> rfl

theorem url_erase (request : Request) : request.erase.url = request.url := by
  cases request with
  | bare url => rfl
  | full request =>
      rw [Request.erase, Request.url, Request.url]
      cases request.url with
      | none => rfl
      | some url =>
          rw [Option.map_some, Option.bind_some, Option.bind_some, text?_erase]

/-- What a request comes to, but for names and headers. -/
def Request.core (request : Request) : Except Error Transaction :=
  stripped Transaction.strip (request.transaction "")

/-- Once the bodies agree, method and URL decide. -/
theorem stripped_transaction {name label : String} {request other : Request}
    (hbody : stripped id (request.resolveBody name) = stripped id (other.resolveBody label))
    (hmethod : request.method = other.method) (hurl : request.url = other.url) :
    stripped Transaction.strip (request.transaction name)
      = stripped Transaction.strip (other.transaction label) := by
  rw [Request.transaction_eq, Request.transaction_eq]
  rcases of_stripped_eq hbody with ⟨error, fault, hfirst, hsecond, hunnamed⟩ |
    ⟨body, recorded, hfirst, hsecond, rfl⟩
  · rw [hfirst, hsecond]
    exact congrArg Except.error hunnamed
  · rw [hfirst, hsecond, Except.bind, Except.bind, id, Request.check_transactionWith,
      Request.check_transactionWith, hmethod, hurl]
    split
    · rfl
    split
    · rfl
    · show Except.ok (request.transactionWith name body).strip
        = Except.ok (other.transactionWith label body).strip
      rw [Request.transactionWith, Request.transactionWith, hmethod, hurl]
      rfl

theorem core_erase (request : Request) : request.erase.core = request.core :=
  stripped_transaction (stripped_resolveBody_erase "" request) (method_erase request)
    (url_erase request)

theorem stripped_build (named : String × Request) :
    stripped Transaction.strip (build named) = named.2.core := by
  refine stripped_transaction ?_ rfl rfl
  exact (stripped_resolveBody_erase named.1 named.2).symm.trans
    (stripped_resolveBody_erase "" named.2)

/-! ## A whole document -/

def recordedIn (items : List Item) : List Request := (requestsOf (walkAll items)).map Prod.snd

theorem map_snd_numbered (first : Nat) (entries : List (Option String × Request)) :
    (numbered first entries).map Prod.snd = entries.map Prod.snd := by
  induction entries generalizing first with
  | nil => rfl
  | cons entry rest ih =>
      rw [numbered, List.map_cons, List.map_cons, ih]

mutual

theorem requestsOf_erase : ∀ item : Item,
    (requestsOf item.erase.walk).map Prod.snd
      = ((requestsOf item.walk).map Prod.snd).map Request.erase
  | .mk name request none => by
      rw [Item.erase, walk_leaf, walk_leaf]
      cases request <;> rfl
  | .mk name request (some items) => by
      rw [Item.erase, walk_folder, walk_folder, List.cons_append, List.cons_append,
        requestsOf_enter, requestsOf_enter, requestsOf_append, requestsOf_append,
        List.map_append, List.map_append, List.map_append]
      have hitems := recordedIn_eraseAll items
      rw [recordedIn, recordedIn] at hitems
      rw [hitems]
      cases request <;> rfl

theorem recordedIn_eraseAll : ∀ items : List Item,
    recordedIn (eraseAll items) = (recordedIn items).map Request.erase
  | [] => rfl
  | item :: rest => by
      have hrest := recordedIn_eraseAll rest
      rw [recordedIn, recordedIn] at hrest ⊢
      rw [eraseAll, walkAll, walkAll, requestsOf_append, requestsOf_append, List.map_append,
        List.map_append, List.map_append, requestsOf_erase item, hrest]

end

end Document

open Document in
/-- What is left of the outcome for a document, from its requests and variables. -/
theorem stripped_ofDocument (document : Document) :
    stripped Collection.strip (Collection.ofDocument document).outcome
      = ((recordedIn document.items).mapM Request.core).map fun ts =>
          { name := none, transactions := ts, vars := document.varMap } := by
  have hbuilt : stripped (List.map Transaction.strip) ((namedRequests document).mapM build)
      = (recordedIn document.items).mapM Request.core := by
    rw [stripped_mapM, recordedIn, ← map_snd_numbered 1, List.mapM_map]
    simp only [stripped_build]
    rfl
  rw [ofDocument_outcome, ← hbuilt]
  cases (namedRequests document).mapM build <;> rfl

theorem varMap_erase (document : Document) : document.erase.varMap = document.varMap := by
  rw [Document.varMap, Document.erase, Document.enabled_enabled, Document.varMap]

/-- What is left of the outcome for a document is left of it for the erasure. -/
theorem stripped_ofDocument_erase (document : Document) :
    stripped Collection.strip (Collection.ofDocument document.erase).outcome
      = stripped Collection.strip (Collection.ofDocument document).outcome := by
  have hrequests : (Document.recordedIn document.erase.items).mapM Document.Request.core
      = (Document.recordedIn document.items).mapM Document.Request.core := by
    rw [Document.erase, Document.recordedIn_eraseAll, List.mapM_map]
    simp only [Function.comp_def, Document.core_erase]
  rw [stripped_ofDocument, stripped_ofDocument, hrequests, varMap_erase]

/-! ## Scripts -/

def Reader.script (read : Reader) (options : Options) (collection : Collection) :
    Traced String := do
  let sources ← read.sources collection options
  let script ← Script.ofTransactions collection.transactions sources
  pure script.render

/-- A script has nothing of a collection but what stripping leaves. -/
theorem script_outcome (read : Reader) (options : Options) {collection : Collection}
    (h : ∀ t ∈ collection.transactions, t.check = .ok ()) :
    (read.script options collection).outcome
      = (read.sources collection.strip options).outcome.map fun sources =>
          (Script.scriptOf collection.strip.transactions sources).render := by
  have hsources : read.sources collection options = read.sources collection.strip options := rfl
  have hscript : ∀ sources, Script.scriptOf collection.strip.transactions sources
      = Script.scriptOf collection.transactions sources := by
    intro sources
    rw [Script.scriptOf, Script.scriptOf, Collection.strip, List.map_map]
    rfl
  rw [Reader.script, Traced.outcome_bind, hsources]
  cases (read.sources collection.strip options).outcome with
  | error error => rfl
  | ok sources =>
      show (Script.ofTransactions collection.transactions sources >>= _).outcome = _
      rw [Traced.outcome_bind, Script.ofTransactions_outcome h]
      exact congrArg (fun script => Except.ok (Script.render script)) (hscript sources).symm

/-- Two outcomes of loading a collection, of which both are errors of one kind, the
same but for the name of the request that they are about, or both are collections
that have the same scripts, whatever else is loaded. -/
inductive ConvertAlike : Except Error Collection → Except Error Collection → Prop where
  | rejected {error other : Error} : error.kind = other.kind → error.unnamed = other.unnamed →
      ConvertAlike (.error error) (.error other)
  | accepted {collection other : Collection} :
      (∀ read options, (Reader.script read options collection).outcome
        = (Reader.script read options other).outcome) →
      ConvertAlike (.ok collection) (.ok other)

theorem convertAlike_of_stripped {document other : Document}
    (h : stripped Collection.strip (Collection.ofDocument document).outcome
      = stripped Collection.strip (Collection.ofDocument other).outcome) :
    ConvertAlike (Collection.ofDocument document).outcome
      (Collection.ofDocument other).outcome := by
  rcases of_stripped_eq h with ⟨error, fault, hfirst, hsecond, hunnamed⟩ |
    ⟨collection, more, hfirst, hsecond, hstrip⟩
  · rw [hfirst, hsecond]
    refine .rejected ?_ hunnamed
    rw [← error.kind_unnamed, hunnamed, fault.kind_unnamed]
  · rw [hfirst, hsecond]
    refine .accepted fun read options => ?_
    rw [script_outcome read options (ofDocument_complete hfirst),
      script_outcome read options (ofDocument_complete hsecond), hstrip]

/-- Documents with the same erasure are rejected both, for the same kind of reason,
or accepted both, and then no choice of variable and data files leads to different
scripts or different errors. -/
theorem convertAlike_of_erase_eq {document other : Document} (h : document.erase = other.erase) :
    ConvertAlike (Collection.ofDocument document).outcome (Collection.ofDocument other).outcome
      ∧ ∀ text more, Document.parse? text = some document → Document.parse? more = some other →
          ConvertAlike (Collection.parse text).outcome (Collection.parse more).outcome := by
  have halike : ConvertAlike (Collection.ofDocument document).outcome
      (Collection.ofDocument other).outcome := by
    refine convertAlike_of_stripped ?_
    rw [← stripped_ofDocument_erase document, h, stripped_ofDocument_erase]
  refine ⟨halike, fun text more htext hmore => ?_⟩
  rw [Collection.parse, Collection.parse, htext, hmore]
  exact halike

/-- A collection with much that is switched off or not used. -/
def cluttered : Document where
  info := some ⟨some "shop", none⟩
  items := [
    .mk (some "upload") (some (.full
      { method := some "POST"
        url := some (.structured
          { raw := some "http://\x7b\x7bhost\x7d\x7d/files", protocol := some "https",
            host := some (.joined "internal"), port := none, path := none, query := [],
            hash := some "token" })
        headers := [⟨"Authorization", .string "secret", false, none⟩]
        body := some
          { mode := some "formdata"
            raw := some "secret"
            urlencoded := [⟨"password", .string "secret", false, none⟩]
            formdata := [⟨"photo", .null, true, some "file"⟩, ⟨"title", .string "sea", false, none⟩]
            disabled := false } })) none,
    .mk (some "folder") none (some [
      .mk none (some (.full
        { method := some "GET", url := some (.plain "http://\x7b\x7bhost\x7d\x7d/"), headers := [],
          body := some ⟨some "graphql", none, [], [], true⟩ })) none])]
  vars := [⟨"host", .string "secret", true, none⟩, ⟨"host", .string "shop.test", false, none⟩]

/-- What a script is made of in it. -/
def uncluttered : Document where
  info := none
  items := [
    .mk none (some (.full
      { method := some "POST"
        url := some (.structured
          ⟨some "http://\x7b\x7bhost\x7d\x7d/files", none, none, none, none, [], none⟩)
        headers := []
        body := some
          ⟨some "formdata", none, [], [⟨"title", .string "sea", false, none⟩], false⟩ })) none,
    .mk none none (some [
      .mk none (some (.full
        { method := some "GET", url := some (.plain "http://\x7b\x7bhost\x7d\x7d/"), headers := [],
          body := none })) none])]
  vars := [⟨"host", .string "shop.test", false, none⟩]

theorem convertAlike_of_erase_eq_uncluttered :
    cluttered.erase = uncluttered.erase
      ∧ ConvertAlike (Collection.ofDocument cluttered).outcome
          (Collection.ofDocument uncluttered).outcome := by
  have herase : cluttered.erase = uncluttered.erase := by rfl
  exact ⟨herase, (convertAlike_of_erase_eq herase).1⟩

end LoadScript
