import LoadScript.Collection
import LoadScript.Proofs.Failure

/-!
# What a request lacks

A request can be replayed when its body can, and when it has a method and a
URL. That is said here without reference to how a transaction is built
(`Request.Complete`), and so is which error is told of a request that cannot
(`Request.Fault`): a body that cannot be replayed before a missing method, and
a missing method before a missing URL. Building a transaction fails exactly
with that error (`transaction_eq_error_iff`) and succeeds exactly for complete
requests (`exists_transaction_iff`); the name under which the request is built
only stands in the error.
-/

namespace LoadScript.Document

/-! ## Bodies -/

/-- A field that is switched on and uploads a file. -/
def Entry.Uploads (entry : Entry) : Prop := entry.disabled = false ∧ entry.isFile = true

def replayedModes : List String := ["raw", "formdata", "urlencoded"]

/-- A body that can be replayed: switched off, or of a known mode and without
files. -/
def Body.Supported (body : Body) : Prop :=
  body.disabled = false → ∀ mode ∈ body.mode,
    mode ∈ replayedModes ∧ (mode = "formdata" → ∀ field ∈ body.formdata, ¬ field.Uploads)

/-- What is told of a body that cannot be replayed, in the request of a name. -/
inductive Body.Fault (name : String) (body : Body) : Error → Prop where
  /-- A form with files, of which the first is told. -/
  | fileField {front back : List Entry} {field : Entry} : body.disabled = false →
      body.mode = some "formdata" → body.formdata = front ++ field :: back → field.Uploads →
      (∀ entry ∈ front, ¬ entry.Uploads) → Fault name body (.fileField field.key name)
  | mode {mode : String} : body.disabled = false → body.mode = some mode →
      mode ∉ replayedModes → Fault name body (.bodyMode mode name)

theorem find?_isFile_eq_some_iff {entries : List Entry} {field : Entry} :
    (enabled entries).find? Entry.isFile = some field ↔
      ∃ front back, entries = front ++ field :: back ∧ field.Uploads
        ∧ ∀ entry ∈ front, ¬ entry.Uploads := by
  rw [enabled, List.find?_filter, List.find?_eq_some_iff_append]
  simp only [Entry.Uploads, Bool.not_eq_true', decide_eq_true_eq]
  constructor
  · rintro ⟨hfield, front, back, rfl, hfront⟩
    refine ⟨front, back, rfl, hfield, fun entry hentry => ?_⟩
    simpa using hfront entry hentry
  · rintro ⟨front, back, rfl, hfield, hfront⟩
    refine ⟨hfield, front, back, rfl, fun entry hentry => ?_⟩
    simpa using hfront entry hentry

theorem find?_isFile_eq_none_iff {entries : List Entry} :
    (enabled entries).find? Entry.isFile = none ↔ ∀ entry ∈ entries, ¬ entry.Uploads := by
  rw [enabled, List.find?_filter, List.find?_eq_none]
  simp [Entry.Uploads]

theorem fault_of_resolve {name : String} {body : Body} {error : Error}
    (h : body.resolve name = .error error) : body.Fault name error := by
  unfold Body.resolve at h
  split at h
  · cases h
  · next henabled =>
      have hdisabled : body.disabled = false := by simpa using henabled
      split at h
      · cases h
      · next mode hmode =>
          split at h
          · split at h <;> cases h
          · next hraw =>
              split at h
              · next hform =>
                  split at h
                  · next field hfield =>
                      obtain ⟨front, back, hsplit, huploads, hfront⟩ :=
                        find?_isFile_eq_some_iff.1 hfield
                      rw [← Except.error.inj h]
                      exact .fileField hdisabled (hform ▸ hmode) hsplit huploads hfront
                  · cases h
              · next hform =>
                  split at h
                  · cases h
                  · next hurlencoded =>
                      rw [← Except.error.inj h]
                      exact .mode hdisabled hmode (by simp [replayedModes, *])

theorem resolve_of_fault {name : String} {body : Body} {error : Error}
    (h : body.Fault name error) : body.resolve name = .error error := by
  cases h with
  | fileField hdisabled hmode hsplit huploads hfront =>
      have hfirst := find?_isFile_eq_some_iff.2 ⟨_, _, hsplit, huploads, hfront⟩
      simp [Body.resolve, hdisabled, hmode, hfirst]
  | mode hdisabled hmode hunknown =>
      simp only [replayedModes, List.mem_cons, List.not_mem_nil, or_false, not_or] at hunknown
      simp [Body.resolve, hdisabled, hmode, hunknown]

theorem resolve_eq_error_iff {name : String} {body : Body} {error : Error} :
    body.resolve name = .error error ↔ body.Fault name error :=
  ⟨fault_of_resolve, resolve_of_fault⟩

theorem supported_iff (name : String) (body : Body) :
    body.Supported ↔ ∀ error, ¬ body.Fault name error := by
  constructor
  · intro hsupported error hfault
    cases hfault with
    | fileField hdisabled hmode hsplit huploads hfront =>
        refine (hsupported hdisabled _ hmode).2 rfl _ ?_ huploads
        rw [hsplit]
        simp
    | mode hdisabled hmode hunknown => exact hunknown (hsupported hdisabled _ hmode).1
  · intro hnone hdisabled mode hmode
    refine ⟨?_, ?_⟩
    · by_contra hunknown
      exact hnone _ (.mode hdisabled hmode hunknown)
    · rintro rfl
      -- the first field that uploads would be a fault
      rw [← find?_isFile_eq_none_iff, Option.eq_none_iff_forall_ne_some]
      intro field hfield
      obtain ⟨front, back, hsplit, huploads, hfront⟩ := find?_isFile_eq_some_iff.1 hfield
      exact hnone _ (.fileField hdisabled hmode hsplit huploads hfront)

/-! ## Requests -/

namespace Request

def body? : Request → Option Body
  | .bare _ => none
  | .full request => request.body

/-- The method of a request; a bare URL is fetched, and a request without a
method has an empty one. -/
def method : Request → String
  | .bare _ => "GET"
  | .full request => request.method.getD ""

/-- The URL of a request, empty where there is none. -/
def url : Request → String
  | .bare url => url
  | .full request => (request.url.bind Url.text?).getD ""

def headers : Request → Fields
  | .bare _ => OrderedMap.empty
  | .full request => fieldsOf request.headers

structure Complete (request : Request) : Prop where
  body : ∀ body ∈ request.body?, body.Supported
  method : Text.isBlankText request.method = false
  url : Text.isBlankText request.url = false

/-- What is told of a request that cannot be replayed, under a name. -/
inductive Fault (name : String) (request : Request) : Error → Prop where
  | body {body : Body} {error : Error} : request.body? = some body → body.Fault name error →
      Fault name request error
  | method : (∀ body ∈ request.body?, body.Supported) →
      Text.isBlankText request.method = true → Fault name request (.missingMethod name)
  | url : (∀ body ∈ request.body?, body.Supported) → Text.isBlankText request.method = false →
      Text.isBlankText request.url = true → Fault name request (.missingUrl name)

def resolveBody (name : String) (request : Request) : Except Error LoadScript.Body :=
  match request.body? with
  | none => .ok .absent
  | some body => body.resolve name

def transactionWith (name : String) (request : Request) (body : LoadScript.Body) :
    Transaction where
  name := name
  method := request.method
  url := request.url
  headers := request.headers
  body := body

theorem resolve_eq (name : String) (request : Request) :
    request.resolve name = (request.resolveBody name).map (request.transactionWith name) := by
  cases request with
  | bare url => rfl
  | full request =>
      obtain ⟨method, url, headers, body⟩ := request
      cases body with
      | none => rfl
      | some body =>
          simp only [resolve, resolveBody, body?]
          cases body.resolve name <;> rfl

theorem resolveBody_eq_error_iff {name : String} {request : Request} {error : Error} :
    request.resolveBody name = .error error ↔
      ∃ body, request.body? = some body ∧ body.Fault name error := by
  unfold resolveBody
  cases request.body? with
  | none => simp
  | some body => simp [resolve_eq_error_iff]

theorem exists_resolveBody_iff (name : String) (request : Request) :
    (∃ body, request.resolveBody name = .ok body) ↔ ∀ body ∈ request.body?, body.Supported := by
  rw [← failure?_eq_none_iff, Option.eq_none_iff_forall_ne_some]
  simp only [ne_eq, failure?_eq_some_iff, resolveBody_eq_error_iff, supported_iff name]
  constructor
  · intro h body hbody error hfault
    exact h error ⟨body, hbody, hfault⟩
  · rintro h error ⟨body, hbody, hfault⟩
    exact h body hbody error hfault

theorem check_transactionWith (name : String) (request : Request) (body : LoadScript.Body) :
    (request.transactionWith name body).check
      = if Text.isBlankText request.method then .error (.missingMethod name)
        else if Text.isBlankText request.url then .error (.missingUrl name)
        else .ok () := rfl

/-- Only the body, the method and the URL decide whether there is a transaction,
in this order. -/
theorem transaction_eq (name : String) (request : Request) :
    request.transaction name
      = (request.resolveBody name).bind fun body =>
          (request.transactionWith name body).check.map fun _ =>
            request.transactionWith name body := by
  rw [transaction, resolve_eq]
  cases request.resolveBody name with
  | error error => rfl
  | ok body =>
      show (request.transactionWith name body).check.bind _
        = (request.transactionWith name body).check.map _
      cases (request.transactionWith name body).check <;> rfl

theorem fault_of_transaction {name : String} {request : Request} {error : Error}
    (h : request.transaction name = .error error) : request.Fault name error := by
  rw [transaction_eq] at h
  cases hbody : request.resolveBody name with
  | error other =>
      rw [hbody] at h
      rw [← Except.error.inj h]
      obtain ⟨body, hrecorded, hfault⟩ := resolveBody_eq_error_iff.1 hbody
      exact .body hrecorded hfault
  | ok body =>
      have hsupported := (exists_resolveBody_iff name request).1 ⟨body, hbody⟩
      rw [hbody, Except.bind, check_transactionWith] at h
      split at h
      · next hmethod =>
          rw [← Except.error.inj h]
          exact .method hsupported hmethod
      · next hmethod =>
          split at h
          · next hurl =>
              rw [← Except.error.inj h]
              exact .url hsupported (by simpa using hmethod) hurl
          · cases h

theorem transaction_of_fault {name : String} {request : Request} {error : Error}
    (h : request.Fault name error) : request.transaction name = .error error := by
  rw [transaction_eq]
  cases h with
  | body hbody hfault =>
      rw [resolveBody_eq_error_iff.2 ⟨_, hbody, hfault⟩]
      rfl
  | method hsupported hmethod =>
      obtain ⟨body, hbody⟩ := (exists_resolveBody_iff name request).2 hsupported
      rw [hbody, Except.bind, check_transactionWith, if_pos hmethod]
      rfl
  | url hsupported hmethod hurl =>
      obtain ⟨body, hbody⟩ := (exists_resolveBody_iff name request).2 hsupported
      rw [hbody, Except.bind, check_transactionWith, hmethod, hurl]
      rfl

theorem transaction_eq_error_iff {name : String} {request : Request} {error : Error} :
    request.transaction name = .error error ↔ request.Fault name error :=
  ⟨fault_of_transaction, transaction_of_fault⟩

theorem transaction_eq_ok_iff {name : String} {request : Request} {t : Transaction} :
    request.transaction name = .ok t ↔ request.Complete
      ∧ ∃ body, request.resolveBody name = .ok body ∧ t = request.transactionWith name body := by
  rw [transaction_eq]
  constructor
  · intro h
    obtain ⟨body, hbody, hchecked⟩ := bind_eq_ok_iff.1 h
    obtain ⟨_, hcheck, ht⟩ := map_eq_ok_iff.1 hchecked
    have hsupported := (exists_resolveBody_iff name request).1 ⟨body, hbody⟩
    rw [check_transactionWith] at hcheck
    split at hcheck
    · cases hcheck
    · next hmethod =>
        split at hcheck
        · cases hcheck
        · next hurl =>
            exact ⟨⟨hsupported, by simpa using hmethod, by simpa using hurl⟩, body, hbody, ht.symm⟩
  · rintro ⟨hcomplete, body, hbody, rfl⟩
    rw [hbody, Except.bind, check_transactionWith, hcomplete.method, hcomplete.url]
    rfl

/-- Complete requests have a transaction under every name, and other requests
under none. -/
theorem exists_transaction_iff (name : String) (request : Request) :
    (∃ t, request.transaction name = .ok t) ↔ request.Complete := by
  constructor
  · rintro ⟨t, ht⟩
    exact (transaction_eq_ok_iff.1 ht).1
  · intro hcomplete
    obtain ⟨body, hbody⟩ := (exists_resolveBody_iff name request).2 hcomplete.body
    exact ⟨_, transaction_eq_ok_iff.2 ⟨hcomplete, body, hbody, rfl⟩⟩

theorem transaction_name {name : String} {request : Request} {t : Transaction}
    (h : request.transaction name = .ok t) : t.name = name := by
  obtain ⟨-, body, -, rfl⟩ := transaction_eq_ok_iff.1 h
  rfl

/-- Every transaction that is built is complete. -/
theorem check_transaction {name : String} {request : Request} {t : Transaction}
    (h : request.transaction name = .ok t) : t.check = .ok () := by
  obtain ⟨hcomplete, body, -, rfl⟩ := transaction_eq_ok_iff.1 h
  rw [check_transactionWith, hcomplete.method, hcomplete.url]
  rfl

end Request

end LoadScript.Document
